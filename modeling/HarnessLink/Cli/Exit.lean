import HarnessLink.Master.Error

/-!
# Exit codes

A command that fails says why and ends with a code for the kind of failure.
-/
namespace HarnessLink.Cli

namespace Exit

def success : Nat := 0

def failure : Nat := 1

def usage : Nat := 2

def link : Nat := 3

def permissionDenied : Nat := 50

def badData : Nat := 60

def badArgument : Nat := 64

/-- The program broke off. -/
def aborted : Nat := 101

def timeout : Nat := 124

def internal : Nat := 125

end Exit

structure Failure where
  code : Nat
  text : String
  deriving DecidableEq

namespace Failure

/-- A failure that tells what was tried. -/
def during (code : Nat) (context text : String) : Failure := ⟨code, context ++ ": " ++ text⟩

def ofIo (context : String) (fault : IoFault) : Failure :=
  let code := match fault.kind with
    | .permissionDenied => Exit.permissionDenied
    | .timedOut | .wouldBlock => Exit.timeout
    | .connectionRefused | .notFound => Exit.failure
    | _ => Exit.internal
  during code context fault.text

/-- Faults of the system are told in its own words alone. -/
def ofLink (context : String) (e : LinkError) : Failure :=
  match e with
  | .bind _ fault | .connect _ fault | .accept fault | .io fault => ofIo context fault
  | .writeDenied _ => during Exit.timeout context e.message
  | .pathTooLong _ _ _ | .disconnected => during Exit.link context e.message

def ofFrame (context : String) (e : FrameError) : Failure :=
  match e with
  | .io fault => ofIo context fault
  | .payloadTooLarge _ | .tooManyFragments _ => during Exit.badData context e.message
  | .connectionClosed => during Exit.failure context e.message
  | .invalidChunkSize _ => during Exit.internal context e.message

def ofPacket (context : String) (e : PacketError) : Failure :=
  match e with
  | .invalidDeviceId _ | .invalidAddress _ _ => during Exit.badArgument context e.message
  | _ => during Exit.badData context e.message

def ofNode (context : String) (e : NodeError) : Failure :=
  match e with
  | .link e => ofLink context e
  | .frame e => ofFrame context e
  | .packet e => ofPacket context e
  | .timeout _ | .retriesExhausted _ _ => during Exit.timeout context e.message
  | .json _ => during Exit.badData context e.message
  | .disconnected _ => during Exit.link context e.message
  | .spawn _ _ => during Exit.internal context e.message
  | .queueFull _ _ | .rejected _ _ _ | .channelBusy => during Exit.failure context e.message
  | .unmeasurable => during Exit.internal context e.message

/-- The failure that ended the serving loop of a master. -/
def ofService (e : NodeError) : Failure :=
  match e with
  | .unmeasurable => ⟨Exit.internal, "orchestrator thread panicked"⟩
  | e => ofNode "orchestrator failed" e

end Failure

end HarnessLink.Cli

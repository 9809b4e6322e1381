import HarnessLink.Frame.Framer
import HarnessLink.Frame.Kind
import HarnessLink.Link.Basic
import HarnessLink.Master.Config
import HarnessLink.Master.Error
import HarnessLink.Packet.Frame

/-!
# The command channel

A channel sends one command at a time over a link and finds its reply among what
the link brings back. Replies are known by their kind and their device alone, so
what arrived before a command is thrown away first. A command without its reply
is sent again, the same bytes each time, until its attempts are used up. It is
broken off where a wait would have no end on the clock.
-/
namespace HarnessLink

/-- The reply that a command waits for. -/
structure Expectation where
  kind : MessageKind
  /-- The device that must send it, if it matters. -/
  source? : Option DeviceId := none
  deriving DecidableEq

namespace Expectation

def admits (x : Expectation) (e : Envelope) : Bool :=
  e.kind = x.kind && (x.source?.isNone || e.device? = x.source?)

/-- The reply in a link frame, if it is the one that is waited for. -/
def find? (x : Expectation) (f : Frame) : Option Envelope :=
  (Envelope.parse? none f.payload).filter x.admits

end Expectation

/-- A channel over a link with states in `σ`. -/
structure Channel (σ : Type) where
  link : σ
  framer : Framer := {}
  phase : Phase := .idle

namespace Channel

variable {σ : Type} (behavior : Link σ) (config : ChannelConfig)

/-- The most pieces that are thrown away before a command. -/
def maxStalePieces : Nat := 64

def enter (phase : Phase) (c : Channel σ) : Channel σ :=
  { c with phase, link := behavior.watch phase c.link }

/-- The frame kind of a message on the link. -/
def frameKind : Message → UInt8
  | .masterToSlave (.sync _) => FrameKind.sync
  | _ => FrameKind.command

/-- The link bytes of a command. -/
def wire (c : Channel σ) (message : Message) (address : Address) : Except NodeError Bytes :=
  match message.frame address with
  | .error e => .error (.packet e)
  | .ok frame =>
    match c.framer.encode config.slot (frameKind message) frame with
    | .error e => .error (.frame e)
    | .ok encoding => .ok encoding.wire

/-- Receive up to `limit` pieces that are already there, and drop them. -/
def dropPieces : Nat → σ → Except LinkError Unit × σ
  | 0, s => (.ok (), s)
  | limit + 1, s =>
    match behavior.receive .zero s with
    | (.error e, s) => (.error e, s)
    | (.ok none, s) => (.ok (), s)
    | (.ok (some _), s) => dropPieces limit s

/-- Throw away what arrived before a command. -/
def discardStale (c : Channel σ) : Except NodeError Unit × Channel σ :=
  match dropPieces behavior maxStalePieces c.link with
  | (.error e, link) => (.error (.link e), { c with link })
  | (.ok (), link) => (.ok (), { c with link, framer := c.framer.reset })

/-- Wait for a reply until `due`. What follows the reply in the piece that
completes it is lost. -/
def await (expected : Expectation) (due : Duration) (c : Channel σ) :
    Except NodeError (Option Envelope) × Channel σ :=
  if behavior.remaining due c.link = .zero then (.ok none, c)
  else
    match _h : behavior.receive (behavior.remaining due c.link) c.link with
    | (.error e, link) => (.error (.link e), { c with link })
    | (.ok none, link) => (.ok none, { c with link })
    | (.ok (some bytes), link) =>
      let (frames, framer) := c.framer.feed bytes
      match frames.findSome? expected.find? with
      | some e => (.ok (some e), { c with link, framer })
      | none => await expected due { c with link, framer }
termination_by behavior.backlog c.link
decreasing_by exact behavior.backlog_receive _h

def exhausted (expected : Expectation) : NodeError :=
  .retriesExhausted expected.kind config.attempts

/-- Send the bytes of a command up to `left` times, until its reply comes. -/
def attempt (bytes : Bytes) (expected : Expectation) :
    Nat → Channel σ → Except NodeError (Option Envelope) × Channel σ
  | 0, c => (.error (exhausted config expected), c.enter behavior .failed)
  | left + 1, c =>
    let c := c.enter behavior .sending
    match behavior.transmit bytes c.link with
    | (.error e, link) => (.error (.link e), { c with link }.enter behavior .failed)
    | (.ok (), link) =>
      let c := { c with link }.enter behavior .awaiting
      match behavior.deadline? config.responseTimeout c.link with
      | none => (.error .unmeasurable, c)
      | some due =>
        match await behavior expected due c with
        | (.error e, c) => (.error e, c.enter behavior .failed)
        | (.ok (some reply), c) => (.ok (some reply), c.enter behavior .success)
        | (.ok none, c) =>
          attempt bytes expected left (if left = 0 then c else c.enter behavior .retry)

/-- Send the bytes of a command that nobody answers. -/
def transmitOnce (bytes : Bytes) (c : Channel σ) : Except NodeError (Option Envelope) × Channel σ :=
  let c := c.enter behavior .sending
  match behavior.transmit bytes c.link with
  | (.error e, link) => (.error (.link e), { c with link }.enter behavior .idle)
  | (.ok (), link) => (.ok none, { c with link }.enter behavior .idle)

/-- Send a message. With an expectation the reply is waited for, and a message
whose attempts bring none fails. -/
def send (message : Message) (address : Address) (expected? : Option Expectation) (c : Channel σ) :
    Except NodeError (Option Envelope) × Channel σ :=
  match c.wire config message address with
  | .error e => (.error e, c)
  | .ok bytes =>
    match c.discardStale behavior with
    | (.error e, c) => (.error e, c)
    | (.ok (), c) =>
      match expected? with
      | none => transmitOnce behavior bytes c
      | some expected => attempt behavior config bytes expected config.attempts c

/-- Send a message unless a command is in flight, which it is when the link's
own work leads back to the channel. -/
def offer (inFlight : Bool) (message : Message) (address : Address)
    (expected? : Option Expectation) (c : Channel σ) :
    Except NodeError (Option Envelope) × Channel σ :=
  if inFlight then (.error .channelBusy, c) else c.send behavior config message address expected?

/-- Send a message and wait for its reply. -/
def request (message : Message) (address : Address) (expected : Expectation) (c : Channel σ) :
    Except NodeError Envelope × Channel σ :=
  match c.send behavior config message address (some expected) with
  | (.ok (some reply), c) => (.ok reply, c)
  | (.ok none, c) => (.error (exhausted config expected), c)
  | (.error e, c) => (.error e, c)

/-- Send a message that nobody answers. -/
def broadcast (message : Message) (address : Address) (c : Channel σ) :
    Except NodeError Unit × Channel σ :=
  match c.send behavior config message address none with
  | (.ok _, c) => (.ok (), c)
  | (.error e, c) => (.error e, c)

end Channel

end HarnessLink

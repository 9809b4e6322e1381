import HarnessLink.Backend.Interface
import HarnessLink.Cli.Help
import HarnessLink.Cli.Output
import HarnessLink.Cli.Timespan
import HarnessLink.Frame.Framer
import HarnessLink.Master.Service
import HarnessLink.Slave.Bus

/-!
# Running commands

What each command prints and how it ends. Files and links come from the
surroundings of the program.
-/
namespace HarnessLink.Cli

/-- What the program finds around it. -/
structure Surroundings (σ τ : Type) where
  slaves : Link σ
  uplink : Link τ
  /-- Connect to the slaves. -/
  connect : String → Except LinkError σ
  connectUplink : String → Except LinkError τ
  /-- Listen for a master. -/
  listen : String → Except LinkError Unit
  fileText : String → Except IoFault String

/-- How a run ends. -/
structure Ending where
  exit : Nat
  output : Printed := .text ""
  error? : Option String := none
  deriving DecidableEq

namespace Ending

/-- A failure after some output. -/
def failAfter (output : Printed) (f : Failure) : Ending :=
  ⟨f.code, output, some ("error: " ++ f.text)⟩

def fail (f : Failure) : Ending := failAfter (.text "") f

/-- Output, or the failure instead of it. -/
def ofResult : Except Failure Printed → Ending
  | .ok output => { exit := Exit.success, output }
  | .error f => fail f

end Ending

def programName : String := "chronolink"

def programVersion : String := "0.1.0"

def versionLine : String := programName ++ " " ++ programVersion

/-! ## Frames -/

/-- The device that an argument names. -/
def deviceOf (context text : String) : Except Failure DeviceId :=
  (DeviceId.ofText text).mapError (Failure.ofPacket context)

/-- The frame that an argument spells. -/
def frameOf (hex : String) : Except Failure Bytes :=
  (FrameText.read hex).mapError fun fault => ⟨Exit.badData, fault.message⟩

/-- Read a frame, as the device of an id would if one is given. -/
def decode (hex : String) (localId? : Option String) (format : OutputFormat) :
    Except Failure Printed := do
  let frame ← frameOf hex
  let localId? ← localId?.mapM (deviceOf "invalid --local-id")
  let envelope ← (Envelope.parse localId? frame).mapError (Failure.ofPacket "decode failed")
  return printEnvelope envelope frame format

def encode (id : DeviceId) (m : MasterToSlave) (format : OutputFormat) : Except Failure Printed := do
  let frame ← ((Message.masterToSlave m).frame (.device id)).mapError
    (Failure.ofPacket "encode failed")
  return printFrame frame format

def version (extended : Bool) : Printed :=
  let link : FrameConfig := {}
  if extended then
    .lines ["name: " ++ programName, "version: " ++ programVersion,
      "features: node=true, async=true, cli=true",
      s!"link: max_chunk={link.maxChunk}, header={Fragment.headerSize}"]
  else .line versionLine

/-! ## Slaves -/

/-- The slaves of a bus by the texts of their ids. -/
def busOf (ids : List String) : Except Failure SlaveBus := do
  let ids ← ids.mapM (deviceOf "invalid --id")
  return { nodes := ids.map fun id => { id } }

variable {σ τ : Type} (around : Surroundings σ τ)

/-- Serve slaves until somebody interrupts. -/
def slave (path : String) (ids : List String) : Except Failure Printed := do
  let _ ← busOf ids
  (around.listen path).mapError (Failure.ofLink "bind failed")
  return .text ""

/-! ## The master -/

def timespanOf (s : String) : Except Failure Duration :=
  (Timespan.read s).mapError fun fault => ⟨Exit.badArgument, fault.message⟩

/-- Requests of a file, one a line. Blank lines and lines with a number sign in
front are none. -/
def requestLines (text : String) : List String :=
  let lines := (text.splitOn "\n").map fun line => Text.trim line.toList
  (lines.filter fun line => !line.isEmpty && line.head? != some '#').map String.ofList

def requestsOf (source : RequestSource) : Except Failure (List String) :=
  match source with
  | .request text => .ok [text]
  | .file path =>
    match around.fileText path with
    | .ok text => .ok (requestLines text)
    | .error fault => .error (Failure.ofIo ("failed reading " ++ path) fault)

/-- An outcome is waited for as long as every attempt for eight silent devices
takes, and longer if that is short. -/
def masterConfig (channel : ChannelConfig) : MasterConfig :=
  let patience := (channel.responseTimeout.scaleCapped channel.attempts).scaleCapped 8
  let usual : MasterConfig := {}
  { usual with outcomeTimeout := ⟨max patience.nanos usual.outcomeTimeout.nanos⟩ }

/-- Time is spent in steps of this length while cycles are kept alive. -/
def lingerStep : Duration := .ofMillis 50

/-- How long cycles are kept alive: whole steps. -/
def lingering (d : Duration) : Duration :=
  lingerStep.scale ((d.nanos + lingerStep.nanos - 1) / lingerStep.nanos)

/-- Answer a request; there is no answer to one that is broken off. -/
def answerRequest (w : Wiring σ τ) (request : String) (s : Service σ τ) :
    Option BackendResponse × Service σ τ :=
  match Json.ofText request with
  | .error reason => (some (Backend.malformed reason), s)
  | .ok v => Backend.answer (Service.submit w) v s

/-- Answer requests in turn, as far as there are answers. Tells whether all were answered. -/
def answerAll (w : Wiring σ τ) : List String → Service σ τ →
    List BackendResponse × Bool × Service σ τ
  | [], s => ([], true, s)
  | request :: rest, s =>
    match answerRequest w request s with
    | (none, s) => ([], false, s)
    | (some response, s) =>
      let (responses, complete, s) := answerAll w rest s
      (response :: responses, complete, s)

/-- What a run of the master starts with. -/
structure MasterStart (σ τ : Type) where
  wiring : Wiring σ τ
  service : Service σ τ
  requests : List String
  linger? : Option Duration

/-- A queue, if there is room for its commands. -/
def queueOf (config : MasterConfig) : Except Failure ForwardQueue :=
  match ForwardQueue.create? config.queueCapacity with
  | some queue => .ok queue
  | none => .error ⟨Exit.aborted, "no room for the queue"⟩

def startMaster (a : MasterArguments) : Except Failure (MasterStart σ τ) := do
  let responseTimeout ← timespanOf a.responseTimeout
  let linger? ← a.linger?.mapM timespanOf
  let requests ← requestsOf around a.source
  let link ← (around.connect a.path).mapError (Failure.ofLink "connect failed")
  let channel : ChannelConfig := { responseTimeout, retries := a.retries }
  let config := masterConfig channel
  let queue ← queueOf config
  let uplink? ← a.uplink?.mapM fun path =>
    (around.connectUplink path).mapError (Failure.ofLink "uplink connect failed")
  return {
    wiring := { slaves := around.slaves, uplink := around.uplink, channel, config }
    service := {
      queue
      master := {
        channel := { link }, uplink? := uplink?.map fun link => { link }
        epoch := around.slaves.clock link } }
    requests
    linger? }

/-- Stop the service of a master whose requests have been answered. -/
def stopMaster (w : Wiring σ τ) (output : Printed) (succeeded : Bool) (s : Service σ τ) :
    Ending × Service σ τ :=
  let s := s.finish w
  match s.ended? with
  | some (.error e) => (.failAfter output (Failure.ofService e), s)
  | _ => ({ exit := if succeeded then Exit.success else Exit.failure, output }, s)

/-- Answer all requests, keep cycles alive for a while, and stop. The program breaks
off where a time cannot be counted. -/
def runMaster (start : MasterStart σ τ) (format : OutputFormat) : Ending × Service σ τ :=
  let w := start.wiring
  let (responses, complete, s) := answerAll w start.requests start.service
  let output := Printed.lines (responses.map fun r => responseText r format)
  let succeeded := responses.all BackendResponse.success
  let aborted : Ending := { exit := Exit.aborted, output }
  if !complete then (aborted, s)
  else
    match start.linger? with
    | none => stopMaster w output succeeded s
    | some d =>
      match (s.clock w).deadline? d with
      | none => (aborted, s)
      | some _ =>
        let last := (s.clock w).add (lingering d)
        stopMaster w output succeeded (s.runOn w (some last) (d.millis + 1))

/-! ## All commands -/

/-- Run a command. Gives what became of a master too, if there was one. -/
def runCommand (invocation : Invocation) : Ending × Option (Service σ τ) :=
  let format := invocation.format
  match invocation.command with
  | .slave path ids => (.ofResult (slave around path ids), none)
  | .master a =>
    match startMaster around a with
    | .error f => (.fail f, none)
    | .ok start =>
      let (ending, s) := runMaster start format
      (ending, some s)
  | .decode hex localId? => (.ofResult (decode hex localId? format), none)
  | .encodeSync mode timestamp =>
    (.ofResult (encode .broadcast (.sync ⟨mode, timestamp⟩) format), none)
  | .encodePing target sequence timestamp =>
    (.ofResult do encode (← deviceOf "invalid --to" target) (.ping ⟨sequence, timestamp⟩) format, none)
  | .version extended => ({ exit := Exit.success, output := version extended }, none)

/-- How a command line ends that is not run. -/
def Stop.ending (environment : Environment) : Stop → Ending
  | .usage => { exit := Exit.usage }
  | .help path =>
    match helpAt? programName environment path with
    | some text => { exit := Exit.success, output := .text (environment.shown text) }
    | none => { exit := Exit.usage }
  | .version => { exit := Exit.success, output := .line versionLine }

/-- Run a command line. -/
def run (environment : Environment) (words : List String) :
    Ending × Option (Service σ τ) :=
  match Invocation.ofWords environment words with
  | .ok invocation => runCommand around invocation
  | .error stop => (stop.ending environment, none)

end HarnessLink.Cli

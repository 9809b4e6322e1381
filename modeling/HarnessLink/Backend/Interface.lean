import HarnessLink.Backend.Request
import HarnessLink.Backend.Response
import HarnessLink.Link.Staging
import HarnessLink.Master.Error
import HarnessLink.Packet.Frame

/-!
# The backend's two interfaces

The backend sends requests as structured text or as frames. Each becomes at most
one command, which is submitted once, and its outcome is answered in the form
that the request came in. A command whose submission is broken off has no answer.
Whatever carries the commands out is a state in `σ` with a function that submits a
command to it.
-/
namespace HarnessLink

namespace BackendResponse

/-- What an outcome is answered with. Mode and state are given back only when
they were set. -/
def ofOutcome (instruction : String) (o : CommandOutcome) : BackendResponse :=
  let result : ResponseResult := { instruction, failed := o.failed.map DeviceId.text }
  ⟨o.isSuccess, match o with
    | .modeSelected true mode => { result with mode? := some mode.code }
    | .controlled true state => { result with control? := some state.code }
    | _ => result⟩

end BackendResponse

namespace Backend

variable {σ τ : Type} (submit : DeviceCommand → σ → Except NodeError CommandOutcome × σ)

/-- Submit a command and respond to its result. There is no response to a command whose
submission is broken off. -/
def submitted (respond : Except NodeError CommandOutcome → ρ) (command : DeviceCommand) (s : σ) :
    Option ρ × σ :=
  let (result, s) := submit command s
  (if NodeError.breaksOff result then none else some (respond result), s)

/-! ## Structured requests -/

/-- The instruction that a request names, whether there is one of this name or
not. -/
def instructionName (request : Json) : String := (request.get BackendRequest.tag).toText

/-- The command of a request, or the error that answers it. -/
def commandOf (request : Json) : Except String DeviceCommand :=
  match BackendRequest.ofJson request with
  | .error fault => .error fault.message
  | .ok request => request.command

/-- The answer to the result of a command. -/
def answerTo (instruction : String) : Except NodeError CommandOutcome → BackendResponse
  | .ok outcome => .ofOutcome instruction outcome
  | .error e => .failure instruction e.message

def answer (request : Json) (s : σ) : Option BackendResponse × σ :=
  let name := instructionName request
  match commandOf request with
  | .error text => (some (.failure name text), s)
  | .ok command => submitted submit (answerTo name) command s

/-- The answer to a text that is no structured value. -/
def malformed (reason : String) : BackendResponse := .failure "" ("malformed request: " ++ reason)

def answerText (request : String) (s : σ) : Option String × σ :=
  match Json.ofText request with
  | .error reason => (some (malformed reason).text, s)
  | .ok v =>
    let (response?, s) := answer submit v s
    (response?.map BackendResponse.text, s)

/-! ## Frames -/

/-- A slave entry with a clip status asks for a clip test. -/
def setupOf (e : SlaveEntry) : DeviceSetup :=
  { id := e.id, conduction := e.conduction.toUInt16, resistance := e.resistance.toUInt16
    clip? := if e.clipStatus = 0 then none else some ⟨e.clipMode, e.clipStatus⟩ }

def resetOf (e : ResetEntry) : DeviceReset := ⟨e.id, e.lock, e.clipStatus⟩

/-- The command that a message of the backend stands for; none for an unknown mode or state. -/
def commandFor? : BackendToMaster → Option DeviceCommand
  | .configure entries => some (.configure (entries.map setupOf))
  | .selectMode code => (TestMode.ofCode? code).map .selectMode
  | .reset entries => some (.reset (entries.map resetOf))
  | .control code => (RunState.ofCode? code).map .control
  | .listDevices _ => some (.query .all)

/-- The status of a reply. -/
def statusOf (success : Bool) : UInt8 := if success then 0 else 1

/-- The entries of a batch that a reply gives back: the failed ones if it is
known which failed. -/
def reported (id : α → DeviceId) (failed? : Option (List DeviceId)) (entries : List α) : List α :=
  match failed? with
  | none | some [] => entries
  | some failed => entries.filter fun entry => failed.contains (id entry)

/-- The reply to a message, by the outcome of its command if it has one. A batch
succeeds when it is known that no device failed. -/
def replyTo (request : BackendToMaster) (outcome? : Option CommandOutcome) : MasterToBackend :=
  let failed? := outcome?.map CommandOutcome.failed
  let accepted := outcome?.any CommandOutcome.isSuccess
  match request with
  | .configure entries =>
    .configured (statusOf (failed? == some [])) (reported SlaveEntry.id failed? entries)
  | .selectMode code => .modeSelected (statusOf accepted) code
  | .reset entries =>
    .resetDone (statusOf (failed? == some [])) (reported ResetEntry.id failed? entries)
  | .control code => .controlled (statusOf accepted) code
  | .listDevices _ =>
    match outcome? with
    | some (.queried _ devices) => .deviceList devices
    | _ => .deviceList []

def reply (request : BackendToMaster) (s : σ) : Option MasterToBackend × σ :=
  match commandFor? request with
  | none => (some (replyTo request none), s)
  | some command => submitted submit (fun result => replyTo request result.toOption) command s

/-- The reply to a frame; none for a frame that is no request. -/
def answerFrame (frame : Bytes) (s : σ) : Except NodeError (Option Bytes) × σ :=
  match Envelope.parse none frame with
  | .error e => (.error (.packet e), s)
  | .ok e =>
    match e.message with
    | .backendToMaster request =>
      match reply submit request s with
      | (none, s) => (.error .unmeasurable, s)
      | (some reply, s) =>
        (((Message.masterToBackend reply).frame .none).mapError NodeError.packet |>.map some, s)
    | _ => (.ok none, s)

/-- Answer a frame through an uplink, if there is one. The answer is sent at a time
that `clock` tells. -/
def serveFrame (behavior : Link τ) (clock : σ → Duration) (timeout : Duration) (frame : Bytes)
    (uplink? : Option (Staged τ)) (s : σ) : Except NodeError Unit × Option (Staged τ) × σ :=
  match answerFrame submit frame s, uplink? with
  | (.error e, s), uplink? => (.error e, uplink?, s)
  | (.ok (some bytes), s), some uplink =>
    match uplink.send? behavior (clock s) timeout bytes with
    | none => (.error .unmeasurable, some uplink, s)
    | some (result, uplink) => (result.mapError NodeError.link, some uplink, s)
  | (.ok _, s), uplink? => (.ok (), uplink?, s)

end Backend

end HarnessLink

import HarnessLink.Packet.Body

/-!
# Commands and outcomes

What the backend asks of the master, and what comes of it. A batch succeeds when
no device failed, a query when every device answered, and a change of mode or
state when it is accepted.
-/
namespace HarnessLink

/-- What the slaves measure. -/
inductive TestMode where
  | conduction
  | resistance
  | clip
  deriving DecidableEq

namespace TestMode

def code : TestMode → UInt8
  | conduction => 0
  | resistance => 1
  | clip => 2

def ofCode? (b : UInt8) : Option TestMode :=
  [conduction, resistance, clip].find? fun m => m.code = b

def name : TestMode → String
  | conduction => "conduction"
  | resistance => "resistance"
  | clip => "clip"

@[simp] theorem ofCode?_code (m : TestMode) : ofCode? m.code = some m := by
  cases m <;> rfl

end TestMode

/-- Whether test cycles run. -/
inductive RunState where
  | disabled
  | enabled
  deriving DecidableEq

namespace RunState

def code : RunState → UInt8
  | disabled => 0
  | enabled => 1

def ofCode? (b : UInt8) : Option RunState :=
  [disabled, enabled].find? fun s => s.code = b

def name : RunState → String
  | disabled => "disabled"
  | enabled => "enabled"

@[simp] theorem ofCode?_code (s : RunState) : ofCode? s.code = some s := by
  cases s <;> rfl

end RunState

/-- A clip test that a device is to run. -/
structure ClipSetup where
  mode : UInt8
  pins : UInt16
  deriving DecidableEq

/-- One device of a batch to configure. -/
structure DeviceSetup where
  id : DeviceId
  conduction : UInt16
  resistance : UInt16 := 0
  clip? : Option ClipSetup := none
  deriving DecidableEq

/-- One device of a batch to reset. -/
structure DeviceReset where
  id : DeviceId
  lock : UInt8
  clipLed : UInt16
  deriving DecidableEq

/-- Which devices a query asks: all that are registered, or the given ones. -/
inductive QueryTarget where
  | all
  | devices (ids : List DeviceId)
  deriving DecidableEq

inductive DeviceCommand where
  | configure (devices : List DeviceSetup)
  | selectMode (mode : TestMode)
  | control (state : RunState)
  | reset (devices : List DeviceReset)
  | query (target : QueryTarget)
  deriving DecidableEq

inductive CommandOutcome where
  | configured (failed : List DeviceId)
  | modeSelected (accepted : Bool) (mode : TestMode)
  | controlled (accepted : Bool) (state : RunState)
  | reset (failed : List DeviceId)
  | queried (unreachable : List DeviceId) (devices : List DeviceEntry)
  deriving DecidableEq

def idsJson (ids : List DeviceId) : Json := .array (ids.map fun id => .string id.text)

def ClipSetup.json (c : ClipSetup) : Json :=
  .object [("mode", .byte c.mode), ("pin", .word c.pins)]

def DeviceSetup.json (d : DeviceSetup) : Json :=
  .object [("id", .string d.id.text), ("conduction_num", .word d.conduction),
    ("resistance_num", .word d.resistance), ("clip", .ofOption ClipSetup.json d.clip?)]

def DeviceReset.json (d : DeviceReset) : Json :=
  .object [("id", .string d.id.text), ("lock", .byte d.lock), ("clip_led", .word d.clipLed)]

def QueryTarget.json : QueryTarget → Json
  | all => .string "all"
  | devices ids => .object [("devices", idsJson ids)]

namespace DeviceCommand

def name : DeviceCommand → String
  | configure _ => "configure"
  | selectMode _ => "mode"
  | control _ => "control"
  | reset _ => "reset"
  | query _ => "query"

def json (c : DeviceCommand) : Json :=
  .object <| ("command", .string c.name) ::
    match c with
    | configure devices => [("devices", .array (devices.map DeviceSetup.json))]
    | selectMode mode => [("mode", .string mode.name)]
    | control state => [("state", .string state.name)]
    | reset devices => [("devices", .array (devices.map DeviceReset.json))]
    | query target => [("target", target.json)]

end DeviceCommand

namespace CommandOutcome

def isSuccess : CommandOutcome → Bool
  | configured failed | reset failed => failed.isEmpty
  | modeSelected accepted _ | controlled accepted _ => accepted
  | queried unreachable _ => unreachable.isEmpty

/-- The devices that did not complete the command. -/
def failed : CommandOutcome → List DeviceId
  | configured failed | reset failed => failed
  | queried unreachable _ => unreachable
  | modeSelected _ _ | controlled _ _ => []

def json : CommandOutcome → Json
  | configured failed => .object [("command", .string "configure"), ("failed", idsJson failed)]
  | modeSelected accepted mode =>
    .object [("command", .string "mode"), ("accepted", .boolean accepted),
      ("mode", .string mode.name)]
  | controlled accepted state =>
    .object [("command", .string "control"), ("accepted", .boolean accepted),
      ("state", .string state.name)]
  | reset failed => .object [("command", .string "reset"), ("failed", idsJson failed)]
  | queried unreachable devices =>
    .object [("command", .string "query"), ("unreachable", idsJson unreachable),
      ("devices", .array (devices.map DeviceEntry.json))]

end CommandOutcome

end HarnessLink

import HarnessLink.Link.Staging
import HarnessLink.Master.Channel
import HarnessLink.Master.Command
import HarnessLink.Master.SlotPlan

/-!
# The master

The master carries out one command at a time against the slaves. Devices that
were configured make up its registry. While test cycles run, each cycle reads the
results that the last sync announced, relays them to the backend and sends the
next sync; mode and registry do not change until the cycles are stopped.

Where a time cannot be counted the master breaks off in the middle of what it
does, without a result. What was done until then stays done.
-/
namespace HarnessLink

/-- A device that completed its configuration. -/
structure RegisteredDevice where
  id : DeviceId
  timeSlot : UInt8
  conduction : UInt16
  resistance : UInt16
  deriving DecidableEq

def RegisteredDevice.json (d : RegisteredDevice) : Json :=
  .object [("id", .string d.id.text), ("time_slot", .byte d.timeSlot),
    ("conduction_num", .word d.conduction), ("resistance_num", .word d.resistance)]

/-- What the master is attached to, and its settings. -/
structure Wiring (σ τ : Type) where
  slaves : Link σ
  uplink : Link τ
  channel : ChannelConfig := {}
  config : MasterConfig := {}

/-- The master over a link to the slaves with states in `σ` and an uplink with
states in `τ`. -/
structure Master (σ τ : Type) where
  channel : Channel σ
  uplink? : Option (Staged τ) := none
  mode : TestMode := .conduction
  running : Bool := false
  registry : List RegisteredDevice := []
  /-- Pins of the whole batch that was configured last. -/
  totalHarness : UInt16 := 0
  /-- The last sync announced results that have not been read. -/
  syncOutstanding : Bool := false
  nextCycle? : Option Duration := none
  pingSequence : UInt16 := 0
  /-- When the master was started. -/
  epoch : Duration := .zero

namespace Master

variable {σ τ : Type} (w : Wiring σ τ)

/-- What time it is. -/
def clock (m : Master σ τ) : Duration := w.slaves.clock m.channel.link

/-! ## Orders to one device -/

/-- An order and the id of its acknowledgement. -/
structure Order where
  message : MasterToSlave
  replyId : UInt8
  deriving DecidableEq

/-- The status that a reply acknowledges an order with. -/
def statusOf (e : Envelope) : Option UInt8 :=
  match e.message with
  | .slaveToMaster reply => reply.status?
  | _ => none

/-- Send an order to a device, which has to accept it. -/
def acknowledged (id : DeviceId) (order : Order) (c : Channel σ) :
    Except NodeError Unit × Channel σ :=
  match c.request w.slaves w.channel (.masterToSlave order.message) (.device id)
      ⟨⟨.slaveToMaster, order.replyId⟩, some id⟩ with
  | (.error e, c) => (.error e, c)
  | (.ok reply, c) =>
    if statusOf reply = some SlaveToMaster.accepted then (.ok (), c)
    else (.error (.rejected id order.message.name (statusOf reply)), c)

/-- Send orders to a device up to the first that it does not accept. -/
def acknowledgedAll (id : DeviceId) : List Order → Channel σ → Except NodeError Unit × Channel σ
  | [], c => (.ok (), c)
  | order :: rest, c =>
    match acknowledged w id order c with
    | (.error e, c) => (.error e, c)
    | (.ok (), c) => acknowledgedAll id rest c

/-! ## Configuration -/

/-- Milliseconds in one byte, stopping at the largest. -/
def intervalByte (d : Duration) : UInt8 := UInt8.ofNat (min 255 d.millis)

def windowOf (interval : UInt8) (a : SlotAssignment) : TestWindow :=
  ⟨a.timeSlot, interval, a.total, a.start, a.count⟩

/-- A device of a batch with its places in the two numberings. -/
structure PlannedDevice where
  setup : DeviceSetup
  conduction : SlotAssignment
  resistance : SlotAssignment
  deriving DecidableEq

namespace PlannedDevice

/-- The orders that configure the device. -/
def orders (config : MasterConfig) (d : PlannedDevice) : List Order :=
  let interval := intervalByte config.conductionInterval
  ⟨.configureConduction (windowOf interval d.conduction), 0x10⟩ ::
    ((if 0 < d.setup.resistance then
        [⟨.configureResistance (windowOf interval d.resistance), 0x11⟩]
      else []) ++
      (d.setup.clip?.map fun c =>
        ⟨.configureClip ⟨config.clipInterval, c.mode, c.pins⟩, 0x12⟩).toList)

def registered (d : PlannedDevice) : RegisteredDevice :=
  ⟨d.setup.id, d.conduction.timeSlot, d.setup.conduction, d.setup.resistance⟩

end PlannedDevice

/-- The places of a batch; none when it is too large. -/
def planBatch? (devices : List DeviceSetup) : Option (List PlannedDevice) := do
  let conduction ← SlotPlan.plan? (devices.map DeviceSetup.conduction)
  let resistance ← SlotPlan.plan? (devices.map DeviceSetup.resistance)
  return (devices.zip (conduction.zip resistance)).map fun (setup, c, r) => ⟨setup, c, r⟩

/-- Configure every device, whatever becomes of the others. Gives the devices
that failed and those that are registered. -/
def configureEach : List PlannedDevice → Channel σ →
    Option (List DeviceId × List RegisteredDevice) × Channel σ
  | [], c => (some ([], []), c)
  | d :: rest, c =>
    let (result, c) := acknowledgedAll w d.setup.id (d.orders w.config) c
    if NodeError.breaksOff result then (none, c)
    else
      let (later?, c) := configureEach rest c
      (later?.map fun (failed, registered) =>
        match result with
        | .ok () => (failed, d.registered :: registered)
        | .error _ => (d.setup.id :: failed, registered), c)

/-- Configure a batch. Nothing happens while cycles run or when the batch is too
large; then every device failed. -/
def configure (devices : List DeviceSetup) (m : Master σ τ) :
    Option CommandOutcome × Master σ τ :=
  let discarded := (some (CommandOutcome.configured (devices.map DeviceSetup.id)), m)
  if m.running then discarded
  else
    match planBatch? devices with
    | none => discarded
    | some batch =>
      match configureEach w batch m.channel with
      | (none, channel) => (none, { m with channel })
      | (some (failed, registry), channel) =>
        let totalHarness := SlotPlan.total (devices.map DeviceSetup.conduction)
        (some (.configured failed), { m with channel, registry, totalHarness })

/-! ## Mode, control and reset -/

/-- Choose what is measured, unless cycles run. -/
def selectMode (mode : TestMode) (m : Master σ τ) : CommandOutcome × Master σ τ :=
  if m.running then (.modeSelected false mode, m)
  else (.modeSelected true mode, { m with mode })

/-- A point in time as slaves see it: milliseconds since the start of the master. -/
def timestamp (epoch : Duration) (c : Channel σ) : UInt32 :=
  UInt32.ofNat ((w.slaves.clock c.link).sub epoch).millis

/-- Send a sync to every slave. -/
def broadcastSync (m : Master σ τ) : Except NodeError Unit × Master σ τ :=
  let (result, channel) := m.channel.broadcast w.slaves w.channel
    (.masterToSlave (.sync ⟨m.mode.code, timestamp w m.epoch m.channel⟩)) (.device .broadcast)
  (result, { m with channel })

/-- How long a cycle takes, if that is a span. -/
def period? (config : MasterConfig) (m : Master σ τ) : Option Duration :=
  match m.mode with
  | .conduction =>
    (config.conductionInterval.scale? m.totalHarness.toNat).bind fun tests =>
      tests.add? config.syncRedundancy
  | .resistance | .clip => some config.idlePeriod

/-- The end of a cycle that starts now, if the clock can tell it. -/
def cycleEnd? (config : MasterConfig) (now : Duration) (m : Master σ τ) : Option Duration :=
  (m.period? config).bind now.deadline?

/-- Start cycles, which takes a registered device and a sync that went out, or
stop them, which always works. -/
def control (state : RunState) (m : Master σ τ) : Option CommandOutcome × Master σ τ :=
  match state with
  | .enabled =>
    if m.registry.isEmpty then (some (.controlled false state), m)
    else
      match m.broadcastSync w with
      | (.error _, m) => (some (.controlled false state), m)
      | (.ok (), m) =>
        let m := { m with running := true, syncOutstanding := true }
        match m.cycleEnd? w.config (m.clock w) with
        | none => (none, m)
        | some due => (some (.controlled true state), { m with nextCycle? := some due })
  | .disabled =>
    let m := { m with running := false, syncOutstanding := false, nextCycle? := none }
    (some (.controlled true state), (m.broadcastSync w).2)

/-- Reset every device, whatever becomes of the others. -/
def resetEach : List DeviceReset → Channel σ → Option (List DeviceId) × Channel σ
  | [], c => (some [], c)
  | d :: rest, c =>
    let (result, c) := acknowledged w d.id ⟨.reset ⟨d.lock, d.clipLed⟩, 0x30⟩ c
    if NodeError.breaksOff result then (none, c)
    else
      let (later?, c) := resetEach rest c
      (later?.map fun failed =>
        match result with
        | .ok () => failed
        | .error _ => d.id :: failed, c)

def reset (devices : List DeviceReset) (m : Master σ τ) : Option CommandOutcome × Master σ τ :=
  let (failed?, channel) := resetEach w devices m.channel
  (failed?.map .reset, { m with channel })

/-! ## Queries -/

def targets (target : QueryTarget) (m : Master σ τ) : List DeviceId :=
  match target with
  | .all => m.registry.map RegisteredDevice.id
  | .devices ids => ids

/-- The short id of a device: its slot when it is registered, else its place in
the list. -/
def shortId (registry : List RegisteredDevice) (index : Nat) (id : DeviceId) : UInt8 :=
  match registry.find? fun d => d.id = id with
  | some d => d.timeSlot
  | none => UInt8.ofNat (min 255 index)

/-- Ping devices in turn. Gives those that did not answer, an entry for each, and the last
sequence number. -/
def pingEach (epoch : Duration) (registry : List RegisteredDevice) :
    Nat → List DeviceId → UInt16 → Channel σ →
      Option (List DeviceId × List DeviceEntry) × UInt16 × Channel σ
  | _, [], sequence, c => (some ([], []), sequence, c)
  | index, id :: rest, sequence, c =>
    let sequence := sequence + 1
    let (result, c) := c.request w.slaves w.channel
      (.masterToSlave (.ping ⟨sequence, timestamp w epoch c⟩)) (.device id)
      ⟨⟨.slaveToMaster, 0x40⟩, some id⟩
    if NodeError.breaksOff result then (none, sequence, c)
    else
      let online := result.toOption.isSome
      let (later?, last, c) := pingEach epoch registry (index + 1) rest sequence c
      (later?.map fun (unreachable, entries) =>
        (if online then unreachable else id :: unreachable,
          ⟨id, shortId registry index id, online, 0, 0, 0⟩ :: entries), last, c)

/-- Ping each target and report who answered. -/
def query (target : QueryTarget) (m : Master σ τ) : Option CommandOutcome × Master σ τ :=
  let (reports?, pingSequence, channel) :=
    pingEach w m.epoch m.registry 0 (m.targets target) m.pingSequence m.channel
  (reports?.map fun (unreachable, entries) => .queried unreachable entries,
    { m with channel, pingSequence })

/-- Carry out one command. -/
def handle (command : DeviceCommand) (m : Master σ τ) : Option CommandOutcome × Master σ τ :=
  match command with
  | .configure devices => m.configure w devices
  | .selectMode mode =>
    let (outcome, m) := m.selectMode mode
    (some outcome, m)
  | .control state => m.control w state
  | .reset devices => m.reset w devices
  | .query target => m.query w target

/-! ## Cycles -/

/-- The order that reads results, and the id of the report. -/
def readOrder : TestMode → Order
  | .conduction => ⟨.readConduction 0, 0x20⟩
  | .resistance => ⟨.readResistance 0, 0x21⟩
  | .clip => ⟨.readClip 0, 0x22⟩

/-- Relay a report to the backend, if there is an uplink. Tells whether it was
relayed. -/
def upload (now : Duration) (report : Envelope) :
    Option (Staged τ) → Except NodeError Bool × Option (Staged τ)
  | none => (.ok false, none)
  | some uplink =>
    match report.message.frame report.address with
    | .error e => (.error (.packet e), some uplink)
    | .ok frame =>
      match uplink.send? w.uplink now w.config.uploadTimeout frame with
      | none => (.error .unmeasurable, some uplink)
      | some (result, uplink) => ((result.map fun () => true).mapError .link, some uplink)

/-- Read the results of every device in turn and relay them. Gives how many were
relayed. -/
def collectEach (order : Order) : List RegisteredDevice → Channel σ → Option (Staged τ) →
    Option Nat × Channel σ × Option (Staged τ)
  | [], c, uplink? => (some 0, c, uplink?)
  | d :: rest, c, uplink? =>
    let (result, c) := c.request w.slaves w.channel (.masterToSlave order.message) (.device d.id)
      ⟨⟨.slaveToBackend, order.replyId⟩, some d.id⟩
    if NodeError.breaksOff result then (none, c, uplink?)
    else
      match result with
      | .error _ => collectEach order rest c uplink?
      | .ok report =>
        let (relayed, uplink?) := upload w (w.slaves.clock c.link) report uplink?
        if NodeError.breaksOff relayed then (none, c, uplink?)
        else
          let (count?, c, uplink?) := collectEach order rest c uplink?
          (count?.map fun count => count + if relayed.toOption = some true then 1 else 0, c, uplink?)

/-- Read the results that the last sync announced, if they have not been read. -/
def collect (m : Master σ τ) : Option Nat × Master σ τ :=
  if m.syncOutstanding then
    let (count?, channel, uplink?) :=
      collectEach w (readOrder m.mode) m.registry m.channel m.uplink?
    (count?, { m with channel, uplink?, syncOutstanding := count?.isNone })
  else (some 0, m)

/-- The end of the current cycle, if cycles run and it has come. -/
def isDue (now : Duration) (m : Master σ τ) : Bool :=
  match m.nextCycle? with
  | some due => m.running && due.nanos ≤ now.nanos
  | none => false

/-- Take the step of a cycle that is due: read results, then announce the next.
Gives how many results were relayed. -/
def pollCycle (now : Duration) (m : Master σ τ) : Except NodeError Nat × Master σ τ :=
  if m.isDue now then
    match m.collect w with
    | (none, m) => (.error .unmeasurable, m)
    | (some count, m) =>
      match m.broadcastSync w with
      | (.error e, m) => (.error e, m)
      | (.ok (), m) =>
        let m := { m with syncOutstanding := true }
        match m.cycleEnd? w.config now with
        | none => (.error .unmeasurable, m)
        | some due => (.ok count, { m with nextCycle? := some due })
  else (.ok 0, m)

end Master

end HarnessLink

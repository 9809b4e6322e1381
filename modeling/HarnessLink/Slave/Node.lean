import HarnessLink.Packet.Frame
import HarnessLink.Slave.Report

/-!
# Slaves

A slave keeps the configurations it was given and answers orders of the master.
It carries out orders to everyone as well as its own, and answers only its own.
A window whose report would not fit the link is refused and leaves the slave as
it was.
-/
namespace HarnessLink

structure SlaveNode where
  id : DeviceId
  status : DeviceStatus := {}
  conduction? : Option TestWindow := none
  resistance? : Option TestWindow := none
  clip? : Option ClipSetting := none
  lock : UInt8 := 0
  clipLed : UInt16 := 0
  lastSync? : Option SyncOrder := none
  deriving DecidableEq

namespace SlaveNode

def json (n : SlaveNode) : Json :=
  let fields {α : Type} (f : α → List (String × Json)) : Option α → Json :=
    .ofOption fun a => .object (f a)
  .object [("id", .string n.id.text), ("status", .word n.status.bits), ("lock", .byte n.lock),
    ("cond", fields (TestWindow.fields "conduction") n.conduction?),
    ("res", fields (TestWindow.fields "resistance") n.resistance?),
    ("clip", fields ClipSetting.fields n.clip?), ("sync", fields SyncOrder.fields n.lastSync?)]

/-- The conduction report; empty before a window is set, and when the report of
the window would not fit the link. -/
def bitmap (n : SlaveNode) : Bytes :=
  match n.conduction? with
  | none => []
  | some w =>
    if w.conductionLength ≤ maxReportLength then w.markRows?.get w.isSome_markRows? else []

theorem bitmap_eq (n : SlaveNode) :
    n.bitmap = match n.conduction? with
      | none => []
      | some w => if w.conductionLength ≤ maxReportLength then w.bitmap else [] := by
  simp only [bitmap, TestWindow.markRows?_eq, Option.get_some]

def readings (n : SlaveNode) : Bytes :=
  match n.resistance? with
  | none => []
  | some w => w.readings

/-- Carry out an order. Gives the slave afterwards and its answer. -/
def obey (n : SlaveNode) : MasterToSlave → SlaveNode × Option Message
  | .sync order => ({ n with lastSync? := some order }, none)
  | .configureConduction w =>
    if w.conductionLength ≤ maxReportLength then
      ({ n with conduction? := some w },
        some (.slaveToMaster (.conductionInfo SlaveToMaster.accepted w)))
    else (n, some (.slaveToMaster (.conductionInfo SlaveToMaster.refused w)))
  | .configureResistance w =>
    if w.resistanceLength ≤ maxReportLength then
      ({ n with resistance? := some w },
        some (.slaveToMaster (.resistanceInfo SlaveToMaster.accepted w)))
    else (n, some (.slaveToMaster (.resistanceInfo SlaveToMaster.refused w)))
  | .configureClip s =>
    ({ n with clip? := some s }, some (.slaveToMaster (.clipInfo SlaveToMaster.accepted s)))
  | .readConduction _ => (n, some (.slaveToBackend (.conductionData n.bitmap)))
  | .readResistance _ => (n, some (.slaveToBackend (.resistanceData n.readings)))
  | .readClip _ =>
    (n, some (.slaveToBackend (.clipData ((n.clip?.map ClipSetting.pins).getD 0))))
  | .reset order =>
    ({ n with lock := order.lock, clipLed := order.clipLed },
      some (.slaveToMaster (.resetDone SlaveToMaster.accepted order)))
  | .ping p => (n, some (.slaveToMaster (.pong p)))

/-- The address that an answer of the slave carries. -/
def answerAddress (n : SlaveNode) : Message → Address
  | .slaveToBackend _ => .slave n.id n.status
  | _ => .device n.id

/-- Take a message. Gives the slave afterwards and the answer with its address,
which only a message to the slave itself gets. -/
def process (n : SlaveNode) (e : Envelope) : SlaveNode × Option Envelope :=
  match e.message with
  | .masterToSlave order =>
    let (n', answer?) := n.obey order
    if e.device? = some n.id then (n', answer?.map fun m => ⟨n'.answerAddress m, m⟩) else (n', none)
  | _ => (n, none)

/-- Take a whole frame and give the frame of the answer. Frames that cannot be
read, or that are meant for another slave, are left alone. -/
def respond (n : SlaveNode) (frame : Bytes) : SlaveNode × Except PacketError (Option Bytes) :=
  match Envelope.parse? (some n.id) frame with
  | none => (n, .ok none)
  | some e =>
    match n.process e with
    | (n, none) => (n, .ok none)
    | (n, some answer) => (n, (answer.message.frame answer.address).map some)

end SlaveNode

end HarnessLink

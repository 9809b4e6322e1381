import HarnessLink.Packet.Device
import HarnessLink.Packet.Status

/-!
# Directions and addresses

A direction says who talks to whom and fixes what address its packets carry:
none between backend and master, a device between master and slave, and the
originating slave with its status on the way from a slave to the backend.
-/
namespace HarnessLink

inductive Direction where
  | masterToSlave
  | slaveToMaster
  | backendToMaster
  | masterToBackend
  | slaveToBackend
  deriving DecidableEq

namespace Direction

def all : List Direction :=
  [masterToSlave, slaveToMaster, backendToMaster, masterToBackend, slaveToBackend]

/-- The byte that stands for a direction in a packet header. -/
def code : Direction → UInt8
  | masterToSlave => 0
  | slaveToMaster => 1
  | backendToMaster => 2
  | masterToBackend => 3
  | slaveToBackend => 4

def ofCode? (b : UInt8) : Option Direction :=
  all.find? fun d => d.code = b

@[simp] theorem ofCode?_code (d : Direction) : ofCode? d.code = some d := by
  cases d <;> rfl

/-- Bytes of addressing behind the message id. -/
def addressLength : Direction → Nat
  | masterToSlave | slaveToMaster => 4
  | backendToMaster | masterToBackend => 0
  | slaveToBackend => 6

/-- A packet holds at least its message id and its address. -/
def minPacketLength (d : Direction) : Nat := 1 + d.addressLength

def name : Direction → String
  | masterToSlave => "master->slave"
  | slaveToMaster => "slave->master"
  | backendToMaster => "backend->master"
  | masterToBackend => "master->backend"
  | slaveToBackend => "slave->backend"

/-- The name as a tag of structured output. -/
def tag : Direction → String
  | masterToSlave => "master_to_slave"
  | slaveToMaster => "slave_to_master"
  | backendToMaster => "backend_to_master"
  | masterToBackend => "master_to_backend"
  | slaveToBackend => "slave_to_backend"

end Direction

inductive Address where
  | none
  | device (id : DeviceId)
  | slave (id : DeviceId) (status : DeviceStatus)
  deriving DecidableEq

namespace Address

/-- The device that the address names. -/
def id? : Address → Option DeviceId
  | .none => Option.none
  | .device id => some id
  | .slave id _ => some id

/-- Packets of the direction carry addresses of this form. -/
def fits : Address → Direction → Bool
  | .none, .backendToMaster | .none, .masterToBackend => true
  | .device _, .masterToSlave | .device _, .slaveToMaster => true
  | .slave _ _, .slaveToBackend => true
  | _, _ => false

def text : Address → String
  | .none => "none"
  | .device id => id.text
  | .slave id status => id.text ++ " status=" ++ Text.Hex.word16 status.bits

def wire : Address → Bytes
  | .none => []
  | .device id => id.wire
  | .slave id status => id.wire ++ Word.le16 status.bits

theorem length_wire {address : Address} {direction : Direction}
    (h : address.fits direction = true) : address.wire.length = direction.addressLength := by
  cases address <;> cases direction <;> first | rfl | simp [fits] at h

end Address

end HarnessLink

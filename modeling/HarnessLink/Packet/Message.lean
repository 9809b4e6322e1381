import HarnessLink.Packet.Catalog

/-!
# Messages

A message is one of the catalogue of its direction. Direction and id together
are its kind, by which replies are told apart.
-/
namespace HarnessLink

inductive Message where
  | masterToSlave (m : MasterToSlave)
  | slaveToMaster (m : SlaveToMaster)
  | backendToMaster (m : BackendToMaster)
  | masterToBackend (m : MasterToBackend)
  | slaveToBackend (m : SlaveToBackend)
  deriving DecidableEq

structure MessageKind where
  direction : Direction
  id : UInt8
  deriving DecidableEq

def MessageKind.text (k : MessageKind) : String :=
  k.direction.name ++ "/" ++ Text.Hex.prefixed k.id

namespace Message

def direction : Message → Direction
  | masterToSlave _ => .masterToSlave
  | slaveToMaster _ => .slaveToMaster
  | backendToMaster _ => .backendToMaster
  | masterToBackend _ => .masterToBackend
  | slaveToBackend _ => .slaveToBackend

def id : Message → UInt8
  | masterToSlave m => m.id
  | slaveToMaster m => m.id
  | backendToMaster m => m.id
  | masterToBackend m => m.id
  | slaveToBackend m => m.id

def kind (m : Message) : MessageKind := ⟨m.direction, m.id⟩

def name : Message → String
  | masterToSlave m => m.name
  | slaveToMaster m => m.name
  | backendToMaster m => m.name
  | masterToBackend m => m.name
  | slaveToBackend m => m.name

/-- The body of a message, without id and address. -/
def write : Message → Except PacketError Bytes
  | masterToSlave m => m.write
  | slaveToMaster m => m.write
  | backendToMaster m => m.write
  | masterToBackend m => m.write
  | slaveToBackend m => m.write

def read (direction : Direction) (id : UInt8) (body : Bytes) : Except PacketError Message :=
  match direction with
  | .masterToSlave => (MasterToSlave.read id body).map masterToSlave
  | .slaveToMaster => (SlaveToMaster.read id body).map slaveToMaster
  | .backendToMaster => (BackendToMaster.read id body).map backendToMaster
  | .masterToBackend => (MasterToBackend.read id body).map masterToBackend
  | .slaveToBackend => (SlaveToBackend.read id body).map slaveToBackend

def render : Message → String × List (String × Json)
  | masterToSlave m => m.render
  | slaveToMaster m => m.render
  | backendToMaster m => m.render
  | masterToBackend m => m.render
  | slaveToBackend m => m.render

def json (m : Message) : Json :=
  let (tag, fields) := m.render
  .object [("direction", .string m.direction.tag),
    ("body", .object (("message", .string tag) :: fields))]

end Message

end HarnessLink

import HarnessLink.Frame.Framer
import HarnessLink.Frame.Kind
import HarnessLink.Slave.Node

/-!
# Slaves on one link

All slaves of a bus hear every frame, in their order, and each answer goes out
as a link frame of its own. An answer that cannot be built is left out and
changes nothing for the others.
-/
namespace HarnessLink

structure SlaveBus where
  nodes : List SlaveNode
  framer : Framer := {}
  deriving DecidableEq

namespace SlaveBus

/-- The slot that the slaves answer in. -/
def slot : UInt8 := 0

/-- An answer as link bytes. -/
def wire? (framer : Framer) (answer : Except PacketError (Option Bytes)) : Option Bytes :=
  match answer with
  | .ok (some frame) =>
    match framer.encode slot FrameKind.reply frame with
    | .ok encoding => some encoding.wire
    | .error _ => none
  | _ => none

/-- Every slave hears a frame. -/
def hear (framer : Framer) (nodes : List SlaveNode) (frame : Bytes) :
    List SlaveNode × List Bytes :=
  let results := nodes.map fun n => n.respond frame
  (results.map Prod.fst, results.filterMap fun r => wire? framer r.2)

/-- Every slave hears each of the frames in turn. -/
def hearAll (framer : Framer) : List SlaveNode → List Frame → List SlaveNode × List Bytes
  | nodes, [] => (nodes, [])
  | nodes, f :: rest =>
    let (nodes, answers) := hear framer nodes f.payload
    let (nodes, later) := hearAll framer nodes rest
    (nodes, answers ++ later)

/-- Take received link bytes. Gives the link bytes of each answer. -/
def receive (b : SlaveBus) (bytes : Bytes) : List Bytes × SlaveBus :=
  let (frames, framer) := b.framer.feed bytes
  let (nodes, answers) := hearAll framer b.nodes frames
  (answers, { nodes, framer })

def node? (b : SlaveBus) (id : DeviceId) : Option SlaveNode :=
  b.nodes.find? fun n => n.id = id

/-- Replace the first slave of the id by what `f` makes of it. -/
def update (id : DeviceId) (f : SlaveNode → SlaveNode) : List SlaveNode → List SlaveNode
  | [] => []
  | n :: rest => if n.id = id then f n :: rest else n :: update id f rest

end SlaveBus

end HarnessLink

import HarnessLink.Frame.Error
import HarnessLink.Link.Basic
import HarnessLink.Packet.Message

/-!
# Faults of the master
-/
namespace HarnessLink

inductive NodeError where
  | link (error : LinkError)
  | frame (error : FrameError)
  | packet (error : PacketError)
  | timeout (waited : Duration)
  /-- No attempt brought the reply that was waited for. -/
  | retriesExhausted (expected : MessageKind) (attempts : Nat)
  | queueFull (capacity : Nat) (waited : Duration)
  /-- A device answered an order with another status than zero, or with none. -/
  | rejected (device : DeviceId) (command : String) (status? : Option UInt8)
  /-- Another command is in flight. -/
  | channelBusy
  | json (reason : String)
  | disconnected (reason : String)
  /-- A span or its end on the clock cannot be counted, and who needs it breaks off. -/
  | unmeasurable
  | spawn (name : String) (fault : IoFault)
  deriving DecidableEq

namespace NodeError

/-- Nobody goes on after this. -/
def breaksOff : Except NodeError α → Bool
  | .error unmeasurable => true
  | _ => false

@[simp] theorem breaksOff_ok (a : α) : breaksOff (.ok a) = false := rfl

@[simp] theorem breaksOff_error (e : NodeError) :
    breaksOff (.error e : Except NodeError α) = decide (e = .unmeasurable) := by
  cases e <;> rfl

def statusText : Option UInt8 → String
  | some status => s!"Some({status.toNat})"
  | none => "None"

/-- The name of the cause, or of the layer that it comes from. -/
def name : NodeError → String
  | link _ => "Transport"
  | frame _ => "Frame"
  | packet _ => "Protocol"
  | timeout _ => "Timeout"
  | retriesExhausted _ _ => "RetriesExhausted"
  | queueFull _ _ => "QueueBackpressure"
  | rejected _ _ _ => "Rejected"
  | channelBusy => "ChannelBusy"
  | json _ => "Json"
  | disconnected _ => "Disconnected"
  | unmeasurable => "Unmeasurable"
  | spawn _ _ => "Spawn"

def message : NodeError → String
  | link error => s!"transport error: {error.message}"
  | frame error => s!"frame error: {error.message}"
  | packet error => s!"protocol error: {error.message}"
  | timeout waited => s!"timed out after {waited.text}"
  | retriesExhausted expected attempts => s!"no {expected.text} reply after {attempts} attempts"
  | queueFull capacity waited => s!"forward queue full (capacity {capacity}) for {waited.text}"
  | rejected device command status? =>
    s!"{device.text} rejected {command} (status {statusText status?})"
  | channelBusy => "a command is already in flight"
  | json reason => s!"json error: {reason}"
  | disconnected reason => s!"disconnected: {reason}"
  | unmeasurable => "a time cannot be counted"
  | spawn name fault => s!"failed to spawn {name}: {fault.text}"

end NodeError

end HarnessLink

/-!
# Peripheral status

A slave reports its peripherals as sixteen flags. Nine of them have names; the
others are kept as they were received.
-/
namespace HarnessLink

structure DeviceStatus where
  bits : UInt16 := 0
  deriving DecidableEq

namespace DeviceStatus

/-- The named flags, lowest first. -/
def named : List (UInt16 × String) :=
  [(0x001, "color_sensor"), (0x002, "sleeve_limit"), (0x004, "unlock_button"),
   (0x008, "battery_low"), (0x010, "pressure_sensor"), (0x020, "lock_1"), (0x040, "lock_2"),
   (0x080, "accessory_1"), (0x100, "accessory_2")]

/-- Every flag of `flag` is set. -/
def contains (s : DeviceStatus) (flag : UInt16) : Bool :=
  s.bits &&& flag = flag

/-- The status with the flags of `flag` set or cleared. -/
def withFlag (s : DeviceStatus) (flag : UInt16) (on : Bool) : DeviceStatus :=
  ⟨if on then s.bits ||| flag else s.bits &&& ~~~flag⟩

/-- Names of the flags that are set, lowest first. -/
def active (s : DeviceStatus) : List String :=
  (named.filter fun entry => s.contains entry.1).map Prod.snd

end DeviceStatus

end HarnessLink

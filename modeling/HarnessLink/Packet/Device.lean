import HarnessLink.Text.Blank
import HarnessLink.Text.Hex
import HarnessLink.Text.Slice

/-!
# Device ids

A device id is a word of four bytes, written to the wire least significant byte
first. Its text lists the wire bytes in order as pairs of capital digits joined
by dashes. Text is read after trimming it and dropping every dash and colon;
eight bytes of text must remain, and each two of them spell a byte of the id.
-/
namespace HarnessLink

structure DeviceId where
  word : UInt32
  deriving DecidableEq

namespace DeviceId

/-- The address that every slave accepts. -/
def broadcast : DeviceId := ⟨0xFFFFFFFF⟩

def isBroadcast (id : DeviceId) : Bool := id = broadcast

def wire (id : DeviceId) : Bytes := Word.le32 id.word

def ofWire (a b c d : UInt8) : DeviceId := ⟨Word.ofLe32 a b c d⟩

@[simp] theorem length_wire (id : DeviceId) : id.wire.length = 4 := rfl

def chars (id : DeviceId) : List Char :=
  ['-'].intercalate (id.wire.map Text.Hex.byte)

def text (id : DeviceId) : String := String.ofList id.chars

def isSeparator (c : Char) : Bool := c = '-' || c = ':'

/-- The characters of a text that have to spell the id. -/
def significant (cs : List Char) : List Char :=
  (Text.trim cs).filter fun c => !isSeparator c

/-- The byte that the pair at an index spells, as a number of its own. Two digits spell no
number that is too large for a byte. -/
def byteAt? (digits : List Char) (i : Nat) : Option UInt8 :=
  ((Text.slice? (2 * i) (2 * i + 2) digits).bind Text.Hex.number?).map UInt8.ofNat

/-- The id spelled by four pairs. -/
def ofDigits? (digits : List Char) : Option DeviceId :=
  if Text.byteCount digits = 8 then do
    return ofWire (← byteAt? digits 0) (← byteAt? digits 1) (← byteAt? digits 2)
      (← byteAt? digits 3)
  else none

def ofText? (s : String) : Option DeviceId :=
  ofDigits? (significant s.toList)

end DeviceId

end HarnessLink

import HarnessLink.Json.Reader
import HarnessLink.Packet.Error

/-!
# Reading values of a known shape

Readers that take strings, bytes and lists straight from a text. A value of the
wrong shape is read as far as it takes to name it, and the fault is reported
behind it; arrays and objects are named without being read.
-/
namespace HarnessLink.Json

/-- The fault of a value that is not what was expected. -/
def unexpected (expected : String) (s : List Char) : Stop :=
  match s with
  | '[' :: _ => .here (.wrongType (describe (array [])) expected) s
  | '\x7b' :: _ => .here (.wrongType (describe (object [])) expected) s
  | s =>
    match readScalar s with
    | .ok (v, rest) => .here (.wrongType (describe v) expected) rest
    | .error stop => stop

/-- Read the value at the front of a text; gaps are dropped, and the text must
not end. -/
def atValue (read : List Char → Except Stop α) (s : List Char) : Except Stop α :=
  match dropGaps s with
  | [] => .error (.ahead .endInValue [])
  | s => read s

def readTextAs (expected : String) : List Char → Except Stop (String × List Char) :=
  atValue fun
    | '\x22' :: rest => readString rest
    | s => .error (unexpected expected s)

def readText : List Char → Except Stop (String × List Char) := readTextAs "a string"

/-- The byte that a value is. -/
def byteOf (v : Json) : Except Fault UInt8 :=
  match v with
  | integer n =>
    if 0 ≤ n ∧ n ≤ 255 then .ok (UInt8.ofNat n.toNat) else .error (.wrongValue (describe v) "u8")
  | v => .error (.wrongType (describe v) "u8")

def readByte : List Char → Except Stop (UInt8 × List Char) :=
  atValue fun s =>
    match s with
    | '[' :: _ | '\x7b' :: _ => .error (unexpected "u8" s)
    | s => do
      let (v, rest) ← readScalar s
      match byteOf v with
      | .ok b => return (b, rest)
      | .error fault => throw (.here fault rest)

/-- A value that may be null. -/
def readOptional (read : List Char → Except Stop (α × List Char)) (s : List Char) :
    Except Stop (Option α × List Char) :=
  match dropGaps s with
  | 'n' :: rest => (readWord ['u', 'l', 'l'] rest).map fun r => (none, r)
  | s => (read s).map fun (a, r) => (some a, r)

def readTexts : List Char → Except Stop (List String × List Char) :=
  atValue fun
    | '[' :: rest => readArray readText rest
    | s => .error (unexpected "a sequence" s)

/-- A device id, spelled in a string. -/
def readDeviceId (s : List Char) : Except Stop (DeviceId × List Char) := do
  let (text, rest) ← readText s
  match DeviceId.ofText text with
  | .ok id => return (id, rest)
  | .error e => throw ⟨.refused e.message, none⟩

/-- The device id that a text spells as a string. -/
def deviceIdOfText (s : String) : Except String DeviceId :=
  match readAll readDeviceId s.toList with
  | .ok id => .ok id
  | .error stop => .error (stop.text s.toList)

end HarnessLink.Json

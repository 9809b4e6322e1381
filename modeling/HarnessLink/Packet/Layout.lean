import HarnessLink.Packet.Error

/-!
# Body layouts

A layout says how a value stands in a message body: how it is written, and how
it is read off the front of the bytes that remain. Layouts are put together from
words, blobs with a length in front and lists with a count in front. Writing
fails only when a blob or a list does not fit its length field, and reading only
when the bytes run out.
-/
namespace HarnessLink

/-- The bytes ran out: how many the next field needs, and how many are left. -/
structure Shortfall where
  needed : Nat
  available : Nat
  deriving DecidableEq

/-- How values are written, and how one is read with the bytes behind it. -/
structure Layout (α : Type) where
  write : α → Except PacketError Bytes
  read : Bytes → Except Shortfall (α × Bytes)

namespace Layout

def u8 : Layout UInt8 where
  write b := .ok [b]
  read
    | b :: rest => .ok (b, rest)
    | [] => .error ⟨1, 0⟩

def u16 : Layout UInt16 where
  write w := .ok (Word.le16 w)
  read
    | a :: b :: rest => .ok (Word.ofLe16 a b, rest)
    | short => .error ⟨2, short.length⟩

def u32 : Layout UInt32 where
  write w := .ok (Word.le32 w)
  read
    | a :: b :: c :: d :: rest => .ok (Word.ofLe32 a b c d, rest)
    | short => .error ⟨4, short.length⟩

/-- The one word of the network with its most significant byte first. -/
def u32be : Layout UInt32 where
  write w := .ok (Word.be32 w)
  read
    | a :: b :: c :: d :: rest => .ok (Word.ofBe32 a b c d, rest)
    | short => .error ⟨4, short.length⟩

/-- The same bytes read as another type. -/
def via (l : Layout α) (build : α → β) (view : β → α) : Layout β where
  write b := l.write (view b)
  read bytes := (l.read bytes).map fun r => (build r.1, r.2)

/-- One value behind the other. -/
def pair (l : Layout α) (m : Layout β) : Layout (α × β) where
  write v := do return (← l.write v.1) ++ (← m.write v.2)
  read bytes := do
    let (a, bytes) ← l.read bytes
    let (b, bytes) ← m.read bytes
    return ((a, b), bytes)

def deviceId : Layout DeviceId := u32.via DeviceId.mk DeviceId.word

def status : Layout DeviceStatus := u16.via DeviceStatus.mk DeviceStatus.bits

/-- A flag: any byte but zero is set, and one is written for it. -/
def flag : Layout Bool := u8.via (fun b => b ≠ 0) fun on => if on then 1 else 0

/-- A two-byte length and as many bytes. -/
def blob (what : String) : Layout Bytes where
  write data :=
    if data.length ≤ 65535 then .ok (Word.le16 (UInt16.ofNat data.length) ++ data)
    else .error (.tooLong what data.length 65535)
  read bytes := do
    let (length, rest) ← u16.read bytes
    let data := rest.take length.toNat
    if data.length = length.toNat then return (data, rest.drop length.toNat)
    else throw ⟨length.toNat, rest.length⟩

/-- As many values as counted. -/
def readMany (entry : Layout α) : Nat → Bytes → Except Shortfall (List α × Bytes)
  | 0, bytes => .ok ([], bytes)
  | n + 1, bytes => do
    let (a, bytes) ← entry.read bytes
    let (as, bytes) ← readMany entry n bytes
    return (a :: as, bytes)

/-- A one-byte count and as many values. -/
def counted (what : String) (entry : Layout α) : Layout (List α) where
  write values :=
    if values.length ≤ 255 then do
      let parts ← values.mapM entry.write
      return UInt8.ofNat values.length :: parts.flatten
    else .error (.tooLong what values.length 255)
  read bytes := do
    let (count, rest) ← u8.read bytes
    entry.readMany count.toNat rest

/-- Read a body that has a name in faults. Bytes behind the last field are left
alone. -/
def readBody (l : Layout α) (name : String) (body : Bytes) : Except PacketError α :=
  match l.read body with
  | .ok (a, _) => .ok a
  | .error s => .error (.truncated name s.needed s.available)

end Layout

end HarnessLink

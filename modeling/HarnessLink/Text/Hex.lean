import HarnessLink.Bytes

/-!
# Hexadecimal digits

Bytes are written as two capital digits. A number is read from digits of either
case, with one plus sign allowed in front; two characters spell a byte by the
same rule, so a sign may take the place of the high digit.
-/
namespace HarnessLink.Text.Hex

/-- Value of one digit of either case. -/
def digit? (c : Char) : Option Nat :=
  if '0' ≤ c ∧ c ≤ '9' then some (c.toNat - 48)
  else if 'a' ≤ c ∧ c ≤ 'f' then some (c.toNat - 87)
  else if 'A' ≤ c ∧ c ≤ 'F' then some (c.toNat - 55)
  else none

/-- The capital digit of a value below sixteen. -/
def digit (n : Nat) : Char :=
  Char.ofNat (if n % 16 < 10 then 48 + n % 16 else 55 + n % 16)

def digitLower (n : Nat) : Char :=
  Char.ofNat (if n % 16 < 10 then 48 + n % 16 else 87 + n % 16)

/-- The number spelled by digits alone. -/
def digits? : List Char → Nat → Option Nat
  | [], value => some value
  | c :: rest, value => (digit? c).bind fun d => digits? rest (16 * value + d)

/-- A number: at least one digit, after at most one plus sign. -/
def number? : List Char → Option Nat
  | [] => none
  | '+' :: rest => if rest.isEmpty then none else digits? rest 0
  | cs => digits? cs 0

/-- The byte spelled by two characters. -/
def byte? (a b : Char) : Option UInt8 :=
  (number? [a, b]).map UInt8.ofNat

def byte (b : UInt8) : List Char :=
  [digit (b.toNat / 16), digit b.toNat]

def bytes (bs : Bytes) : List Char :=
  bs.flatMap byte

/-- The digits of a number, most significant first, without leading zeros. -/
def lowerNumber (n : Nat) : List Char :=
  if n < 16 then [digitLower n] else lowerNumber (n / 16) ++ [digitLower n]

/-- A word as `0x` and four capital digits. -/
def word16 (w : UInt16) : String :=
  String.ofList ('0' :: 'x' :: bytes [UInt8.ofNat (w.toNat / 256), UInt8.ofNat w.toNat])

/-- A byte as `0x` and two capital digits. -/
def prefixed (b : UInt8) : String :=
  String.ofList ('0' :: 'x' :: byte b)

end HarnessLink.Text.Hex

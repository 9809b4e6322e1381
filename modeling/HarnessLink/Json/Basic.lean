import HarnessLink.Json.Binary64
import HarnessLink.Text.Hex

/-!
# Structured values

The values that requests are read from and that answers are written as. Objects
keep the order of their fields. The compact form has no blanks; in strings,
quotes, backslashes and controls are escaped, and everything else is written as
it is.
-/
namespace HarnessLink

inductive Json where
  | null
  | boolean (b : Bool)
  | integer (n : Int)
  | real (x : Binary64)
  | string (s : String)
  | array (items : List Json)
  | object (fields : List (String × Json))

namespace Json

instance : Inhabited Json := ⟨null⟩

def natural (n : Nat) : Json := integer n

def byte (b : UInt8) : Json := natural b.toNat

def word (w : UInt16) : Json := natural w.toNat

def long (w : UInt32) : Json := natural w.toNat

/-- The value of a field; null when the field is absent. -/
def ofOption (f : α → Json) : Option α → Json
  | some a => f a
  | none => null

/-- The value of a field; null when there is none. -/
def get (v : Json) (key : String) : Json :=
  match v with
  | object fields => (fields.lookup key).getD null
  | _ => null

/-- The text that a value is; empty for every other value. -/
def toText : Json → String
  | string s => s
  | _ => ""

/-- How a character is written in a string. -/
def escape (c : Char) : List Char :=
  match c with
  | '\x22' => ['\\', '\x22']
  | '\\' => ['\\', '\\']
  | '\x08' => ['\\', 'b']
  | '\x0c' => ['\\', 'f']
  | '\n' => ['\\', 'n']
  | '\r' => ['\\', 'r']
  | '\t' => ['\\', 't']
  | c =>
    if c.toNat < 32 then
      ['\\', 'u', '0', '0', Text.Hex.digitLower (c.toNat / 16), Text.Hex.digitLower c.toNat]
    else [c]

def stringChars (s : String) : List Char :=
  '\x22' :: s.toList.flatMap escape ++ ['\x22']

mutual

/-- The compact form. -/
def chars : Json → List Char
  | null => ['n', 'u', 'l', 'l']
  | boolean b => if b then ['t', 'r', 'u', 'e'] else ['f', 'a', 'l', 's', 'e']
  | integer n => (toString n).toList
  | real x => x.chars
  | string s => stringChars s
  | array items => '[' :: itemChars items ++ [']']
  | object fields => '\x7b' :: fieldChars fields ++ ['\x7d']

/-- Items with commas between them. -/
def itemChars : List Json → List Char
  | [] => []
  | [v] => chars v
  | v :: rest => chars v ++ ',' :: itemChars rest

/-- Fields with commas between them. -/
def fieldChars : List (String × Json) → List Char
  | [] => []
  | [(key, v)] => stringChars key ++ ':' :: chars v
  | (key, v) :: rest => stringChars key ++ ':' :: chars v ++ ',' :: fieldChars rest

end

def text (v : Json) : String := String.ofList v.chars

end Json

end HarnessLink

import HarnessLink.Json.Scalar

/-!
# Reading structured values

`readItems` and `readFields` take what stands between the brackets of an array
or an object apart, and leave to their callers how an item or a field is read.
With them a text is read as a value; the fields of its objects are put in the
order of their names, and of fields with one name the last is kept. Values nest
at most 127 deep.
-/
namespace HarnessLink.Json

/-- What stands where the next item or field is expected: none before the
closing bracket, else the text of the item. -/
def nextItem (first : Bool) (s : List Char) : Except Stop (Option (List Char) × List Char) :=
  match dropGaps s with
  | [] => .error (.ahead .endInArray [])
  | ']' :: rest => .ok (none, ']' :: rest)
  | c :: rest =>
    if first then .ok (some (c :: rest), c :: rest)
    else if c = ',' then
      match dropGaps rest with
      | [] => .error (.ahead .endInValue [])
      | ']' :: rest => .error (.ahead .trailingComma (']' :: rest))
      | rest => .ok (some rest, rest)
    else .error (.ahead .expectedItemEnd (c :: rest))

def nextField (first : Bool) (s : List Char) : Except Stop (Option (List Char) × List Char) :=
  match dropGaps s with
  | [] => .error (.ahead .endInObject [])
  | '\x7d' :: rest => .ok (none, '\x7d' :: rest)
  | c :: rest =>
    if first then
      if c = '\x22' then .ok (some (c :: rest), c :: rest)
      else .error (.ahead .keyNotString (c :: rest))
    else if c = ',' then
      match dropGaps rest with
      | [] => .error (.ahead .endInValue [])
      | '\x22' :: rest => .ok (some ('\x22' :: rest), '\x22' :: rest)
      | '\x7d' :: rest => .error (.ahead .trailingComma ('\x7d' :: rest))
      | rest => .error (.ahead .keyNotString rest)
    else .error (.ahead .expectedFieldEnd (c :: rest))

/-- The text behind the colon of a field. -/
def readColon (s : List Char) : Except Stop (List Char) :=
  match dropGaps s with
  | [] => .error (.ahead .endInObject [])
  | ':' :: rest => .ok rest
  | rest => .error (.ahead .expectedColon rest)

/-- Close an array behind its last wanted item. -/
def closeArray (s : List Char) : Except Stop (List Char) :=
  match dropGaps s with
  | [] => .error (.ahead .endInArray [])
  | ']' :: rest => .ok rest
  | ',' :: rest =>
    match dropGaps rest with
    | ']' :: rest => .error (.ahead .trailingComma (']' :: rest))
    | rest => .error (.ahead .trailingText rest)
  | rest => .error (.ahead .trailingText rest)

/-- The text that is left once closing an array has been tried. -/
def pastArray (s : List Char) : List Char :=
  match dropGaps s with
  | ']' :: rest => rest
  | ',' :: rest => dropGaps rest
  | rest => rest

/-- The text that is left once closing an object has been tried. -/
def pastObject (s : List Char) : List Char :=
  match dropGaps s with
  | '\x7d' :: rest => rest
  | rest => rest

/-- The items of an array whose bracket has been read, each by `item`. An item
takes at least one character, so `fuel` above the length of the text is
enough. -/
def readItems (item : List Char → Except Stop (α × List Char)) :
    Nat → Bool → List Char → Except Stop (List α × List Char)
  | 0, _, s => .error (.ahead .endInArray s)
  | fuel + 1, first, s => do
    let (next?, s) ← nextItem first s
    match next? with
    | none => return ([], s.drop 1)
    | some _ =>
      let (a, s) ← item s
      let (as, s) ← readItems item fuel false s
      return (a :: as, s)

/-- The fields of an object whose bracket has been read. Each is taken by `field`
with its name and the text behind the name. Gives the text behind the object. -/
def readFields (field : σ → String → List Char → Except Stop (σ × List Char)) :
    Nat → Bool → σ → List Char → Except Stop (σ × List Char)
  | 0, _, _, s => .error (.ahead .endInObject s)
  | fuel + 1, first, state, s => do
    let (next?, s) ← nextField first s
    match next? with
    | none => return (state, s)
    | some _ =>
      let (name, s) ← readString (s.drop 1)
      let (state, s) ← field state name s
      readFields field fuel false state s

def readArray (item : List Char → Except Stop (α × List Char)) (s : List Char) :
    Except Stop (List α × List Char) :=
  readItems item (s.length + 1) true s

/-- Put a field in the order of names; a field of that name is replaced. -/
def insertField (name : String) (v : Json) : List (String × Json) → List (String × Json)
  | [] => [(name, v)]
  | (other, w) :: rest =>
    if name = other then (name, v) :: rest
    else if name < other then (name, v) :: (other, w) :: rest
    else (other, w) :: insertField name v rest

/-- A word, a number or a string, from its first character on. -/
def readScalar (s : List Char) : Except Stop (Json × List Char) :=
  match s with
  | [] => .error (.ahead .endInValue [])
  | 'n' :: rest => (readWord ['u', 'l', 'l'] rest).map fun r => (null, r)
  | 't' :: rest => (readWord ['r', 'u', 'e'] rest).map fun r => (boolean true, r)
  | 'f' :: rest => (readWord ['a', 'l', 's', 'e'] rest).map fun r => (boolean false, r)
  | '-' :: rest => readNumber true rest
  | '\x22' :: rest => (readString rest).map fun (s, r) => (string s, r)
  | c :: rest =>
    if c.isDigit then readNumber false (c :: rest)
    else .error (.ahead .expectedValue (c :: rest))

/-- How deep values may nest. -/
def maxDepth : Nat := 127

/-- A value that nests at most `depth` deep. -/
def readValue : Nat → List Char → Except Stop (Json × List Char)
  | depth, s =>
    match dropGaps s, depth with
    | '[' :: rest, 0 => .error (.ahead .tooDeep ('[' :: rest))
    | '\x7b' :: rest, 0 => .error (.ahead .tooDeep ('\x7b' :: rest))
    | '[' :: rest, depth + 1 => do
      let (items, rest) ← readArray (readValue depth) rest
      return (array items, rest)
    | '\x7b' :: rest, depth + 1 => do
      let (fields, rest) ← readFields (fun fields name s => do
        let (v, s) ← readValue depth (← readColon s)
        return (insertField name v fields, s)) (rest.length + 1) true [] rest
      return (object fields, rest.drop 1)
    | rest, _ => readScalar rest

/-- Read a whole text by `read`: nothing but gaps may follow. -/
def readAll (read : List Char → Except Stop (α × List Char)) (s : List Char) : Except Stop α := do
  let (a, rest) ← read s
  match dropGaps rest with
  | [] => return a
  | rest => throw (.ahead .trailingText rest)

/-- The value that a text spells, or what is wrong with the text. -/
def ofText (s : String) : Except String Json :=
  match readAll (readValue maxDepth) s.toList with
  | .ok v => .ok v
  | .error stop => .error (stop.text s.toList)

/-! ## Passing over values -/

inductive Bracket where
  | square
  | curly
  deriving DecidableEq

namespace Bracket

def isClosedBy : Bracket → Char → Bool
  | square, c => c = ']'
  | curly, c => c = '\x7d'

def endFault : Bracket → Fault
  | square => .endInArray
  | curly => .endInObject

def separatorFault : Bracket → Fault
  | square => .expectedItemEnd
  | curly => .expectedFieldEnd

end Bracket

def skipScalar (s : List Char) : Except Stop (List Char) :=
  match s with
  | '-' :: rest => skipNumber rest
  | '\x22' :: rest => skipString rest
  | c :: rest => if c.isDigit then skipNumber (c :: rest) else (readScalar s).map Prod.snd
  | [] => .error (.ahead .endInValue [])

/-- Pass over the name and the colon of a field. -/
def skipName (s : List Char) : Except Stop (List Char) :=
  match dropGaps s with
  | [] => .error (.ahead .endInObject [])
  | '\x22' :: rest => do readColon (← skipString rest)
  | rest => .error (.ahead .keyNotString rest)

mutual

/-- Pass over a value and everything that closes the brackets around it. Here
values may nest to any depth. -/
def skipValue : Nat → List Bracket → List Char → Except Stop (List Char)
  | 0, _, s => .error (.ahead .endInValue s)
  | fuel + 1, brackets, s =>
    match dropGaps s with
    | '[' :: rest => skipBehind fuel false (.square :: brackets) rest
    | '\x7b' :: rest => skipBehind fuel false (.curly :: brackets) rest
    | rest => do skipBehind fuel true brackets (← skipScalar rest)

/-- Go on behind a value, or behind an opening bracket, where no comma may
stand. -/
def skipBehind : Nat → Bool → List Bracket → List Char → Except Stop (List Char)
  | _, _, [], s => .ok s
  | 0, _, _, s => .error (.ahead .endInValue s)
  | fuel + 1, comma, bracket :: outer, s =>
    match dropGaps s with
    | [] => .error (.ahead bracket.endFault [])
    | c :: rest =>
      if bracket.isClosedBy c then skipBehind fuel true outer rest
      else if comma && c ≠ ',' then .error (.ahead bracket.separatorFault (c :: rest))
      else
        let s := if comma then rest else c :: rest
        match bracket with
        | .square => skipValue fuel (.square :: outer) s
        | .curly => do skipValue fuel (.curly :: outer) (← skipName s)

end

/-- Pass over one value. -/
def skip (s : List Char) : Except Stop (List Char) :=
  skipValue (2 * s.length + 2) [] s

end HarnessLink.Json

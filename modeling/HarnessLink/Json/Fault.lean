import HarnessLink.Json.Basic
import HarnessLink.Text.Quoted

/-!
# Faults of structured text

Why a text is no structured value, or a value not of the wanted shape. A reader
stops with what was left of the text; from that and the whole text follows the
line and the column, which counts bytes, that the fault is reported at.
-/
namespace HarnessLink.Json

inductive Fault where
  | endInValue
  | endInString
  | endInArray
  | endInObject
  | expectedColon
  | expectedItemEnd
  | expectedFieldEnd
  | expectedWord
  | expectedValue
  | badEscape
  | badNumber
  | numberRange
  | controlInString
  | keyNotString
  | loneSurrogate
  | unpairedEscape
  | trailingComma
  | trailingText
  | tooDeep
  | wrongType (found expected : String)
  | wrongValue (found expected : String)
  | wrongLength (found : Nat) (expected : String)
  | missingField (name : String)
  | duplicateField (name : String)
  | unknownVariant (name : String) (choices : List String)
  /-- A value that its own reader refused. -/
  | refused (reason : String)
  deriving DecidableEq

def ticked (s : String) : String := s!"`{s}`"

/-- The names that are allowed, as a phrase. -/
def choicePhrase : List String → String
  | [] => "there are no variants"
  | [a] => "expected " ++ ticked a
  | [a, b] => s!"expected {ticked a} or {ticked b}"
  | choices => "expected one of " ++ String.intercalate ", " (choices.map ticked)

def Fault.message : Fault → String
  | endInValue => "EOF while parsing a value"
  | endInString => "EOF while parsing a string"
  | endInArray => "EOF while parsing a list"
  | endInObject => "EOF while parsing an object"
  | expectedColon => "expected `:`"
  | expectedItemEnd => "expected `,` or `]`"
  | expectedFieldEnd => "expected `,` or `\x7d`"
  | expectedWord => "expected ident"
  | expectedValue => "expected value"
  | badEscape => "invalid escape"
  | badNumber => "invalid number"
  | numberRange => "number out of range"
  | controlInString => "control character (\\u0000-\\u001F) found while parsing a string"
  | keyNotString => "key must be a string"
  | loneSurrogate => "lone leading surrogate in hex escape"
  | unpairedEscape => "unexpected end of hex escape"
  | trailingComma => "trailing comma"
  | trailingText => "trailing characters"
  | tooDeep => "recursion limit exceeded"
  | wrongType found expected => s!"invalid type: {found}, expected {expected}"
  | wrongValue found expected => s!"invalid value: {found}, expected {expected}"
  | wrongLength found expected => s!"invalid length {found}, expected {expected}"
  | missingField name => s!"missing field {ticked name}"
  | duplicateField name => s!"duplicate field {ticked name}"
  | unknownVariant name choices => s!"unknown variant {ticked name}, {choicePhrase choices}"
  | refused reason => reason

/-- What a value is, in a fault that found it where it does not belong. -/
def describe : Json → String
  | null => "null"
  | boolean b => "boolean " ++ ticked (if b then "true" else "false")
  | integer n => "integer " ++ ticked (toString n)
  | real x => "floating point " ++ ticked x.text
  | string s => "string " ++ Text.quoted s
  | array _ => "sequence"
  | object _ => "map"

structure Position where
  line : Nat
  column : Nat
  deriving DecidableEq

namespace Position

/-- The position behind `count` bytes of a text. -/
def behind (p : Position) : List Char → Nat → Position
  | [], _ => p
  | _, 0 => p
  | c :: rest, count =>
    if c = '\n' then behind ⟨p.line + 1, 0⟩ rest (count - 1)
    else behind ⟨p.line, p.column + min count c.utf8Size⟩ rest (count - c.utf8Size)

def start : Position := ⟨1, 0⟩

end Position

/-- A fault, what was left of the text when it arose, and how many bytes of that
count as seen. A fault without a place concerns the value as a whole. -/
structure Stop where
  fault : Fault
  place? : Option (List Char × Nat)

namespace Stop

/-- A fault in what has been read. -/
def here (fault : Fault) (rest : List Char) : Stop := ⟨fault, some (rest, 0)⟩

/-- A fault in the next character. -/
def ahead (fault : Fault) (rest : List Char) : Stop := ⟨fault, some (rest, 1)⟩

def position? (whole : List Char) (stop : Stop) : Option Position :=
  stop.place?.map fun (rest, seen) =>
    let read := whole.take (whole.length - rest.length)
    let before := Position.start.behind read (read.foldl (fun n c => n + c.utf8Size) 0)
    before.behind rest seen

/-- The fault of reading `whole`, with its position. -/
def text (whole : List Char) (stop : Stop) : String :=
  match stop.position? whole with
  | none => stop.fault.message
  | some p => s!"{stop.fault.message} at line {p.line} column {p.column}"

end Stop

end HarnessLink.Json

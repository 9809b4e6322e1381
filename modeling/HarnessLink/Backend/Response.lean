import HarnessLink.Json.Typed

/-!
# Answers to the backend

An answer tells whether a request succeeded, which request it was, the devices
that failed, and the mode or the state that was set, or an error text. Empty
parts are left out when an answer is written and filled in when it is read. Its
text form reads back as the same answer.
-/
namespace HarnessLink

/-- What an answer reports. -/
structure ResponseResult where
  instruction : String
  failed : List String := []
  mode? : Option UInt8 := none
  control? : Option UInt8 := none
  error? : Option String := none
  deriving DecidableEq

structure BackendResponse where
  success : Bool
  result : ResponseResult
  deriving DecidableEq

namespace ResponseResult

def json (r : ResponseResult) : Json :=
  .object <|
    [("inst", .string r.instruction)] ++
    (if r.failed.isEmpty then [] else [("id", .array (r.failed.map .string))]) ++
    (r.mode?.map fun m => ("mode", Json.byte m)).toList ++
    (r.control?.map fun c => ("ctrl", Json.byte c)).toList ++
    (r.error?.map fun e => ("error", Json.string e)).toList

/-- The fields that have been read. -/
structure Draft where
  instruction? : Option String := none
  failed? : Option (List String) := none
  mode? : Option (Option UInt8) := none
  control? : Option (Option UInt8) := none
  error? : Option (Option String) := none

open Json

/-- Read a field that must not have been read before. -/
def once (name : String) (old? : Option α) (read : List Char → Except Stop (α × List Char))
    (s : List Char) : Except Stop (Option α × List Char) := do
  if old?.isSome then throw (.here (.duplicateField name) (pastObject s))
  let (a, s) ← read (← readColon s)
  return (some a, s)

def readField (d : Draft) (name : String) (s : List Char) : Except Stop (Draft × List Char) :=
  match name with
  | "inst" => do
    let (instruction?, s) ← once name d.instruction? readText s
    return ({ d with instruction? }, s)
  | "id" => do
    let (failed?, s) ← once name d.failed? readTexts s
    return ({ d with failed? }, s)
  | "mode" => do
    let (mode?, s) ← once name d.mode? (readOptional readByte) s
    return ({ d with mode? }, s)
  | "ctrl" => do
    let (control?, s) ← once name d.control? (readOptional readByte) s
    return ({ d with control? }, s)
  | "error" => do
    let (error?, s) ← once name d.error? (readOptional readText) s
    return ({ d with error? }, s)
  | _ => do return (d, ← skip (← readColon s))

/-- The next item of an array that stands for a record, if there is one. -/
def item? (first : Bool) (read : List Char → Except Stop (α × List Char)) (s : List Char) :
    Except Stop (Option α × List Char) := do
  let (next?, s) ← nextItem first s
  match next? with
  | none => return (none, s)
  | some _ =>
    let (a, s) ← read s
    return (some a, s)

/-- Read a result from an array of its parts in order. -/
def readParts (s : List Char) : Except Stop (ResponseResult × List Char) := do
  let (instruction?, s) ← item? true readText s
  match instruction? with
  | none => throw (.here (.wrongLength 0 "struct ResponseResult with 5 elements") (pastArray s))
  | some instruction =>
    let (failed?, s) ← item? false readTexts s
    let (mode?, s) ← item? false (readOptional readByte) s
    let (control?, s) ← item? false (readOptional readByte) s
    let (error?, s) ← item? false (readOptional readText) s
    return (⟨instruction, failed?.getD [], mode?.join, control?.join, error?.join⟩, ← closeArray s)

def read : List Char → Except Stop (ResponseResult × List Char) :=
  atValue fun
    | '\x7b' :: s => do
      let (d, s) ← readFields readField (s.length + 1) true {} s
      match d.instruction? with
      | none => throw (.here (.missingField "inst") (pastObject s))
      | some instruction =>
        return (⟨instruction, d.failed?.getD [], d.mode?.join, d.control?.join, d.error?.join⟩,
          pastObject s)
    | '[' :: s => readParts s
    | s => .error (unexpected "struct ResponseResult" s)

end ResponseResult

namespace BackendResponse

/-- The answer that reports an error. -/
def failure (instruction error : String) : BackendResponse :=
  ⟨false, { instruction, error? := some error }⟩

def statusName (success : Bool) : String := if success then "OK" else "ERROR"

def json (r : BackendResponse) : Json :=
  .object [("status", .string (statusName r.success)), ("result", r.result.json)]

def text (r : BackendResponse) : String := r.json.text

open Json ResponseResult

/-- A status by its name. -/
def readStatusName (s : List Char) : Except Stop (Bool × List Char) := do
  let (name, rest) ← readTextAs "variant identifier" s
  if name = statusName true then return (true, rest)
  else if name = statusName false then return (false, rest)
  else throw (.here (.unknownVariant name [statusName true, statusName false]) rest)

def readNull : List Char → Except Stop (List Char) :=
  atValue fun
    | 'n' :: rest => readWord ['u', 'l', 'l'] rest
    | s => .error (unexpected "unit" s)

/-- A status is a string, or an object whose one field has its name and is
null. -/
def readStatus : List Char → Except Stop (Bool × List Char) :=
  atValue fun s =>
    match s with
    | '\x22' :: _ => readStatusName s
    | '\x7b' :: rest => do
      let (success, rest) ← readStatusName rest
      let rest ← readNull (← readColon rest)
      match dropGaps rest with
      | '\x7d' :: rest => return (success, rest)
      | [] => throw (.here .endInObject [])
      | rest => throw (.here .expectedValue rest)
    | s => .error (.ahead .expectedValue s)

structure Draft where
  success? : Option Bool := none
  result? : Option ResponseResult := none

def readField (d : Draft) (name : String) (s : List Char) : Except Stop (Draft × List Char) :=
  match name with
  | "status" => do
    let (success?, s) ← once name d.success? readStatus s
    return ({ d with success? }, s)
  | "result" => do
    let (result?, s) ← once name d.result? ResponseResult.read s
    return ({ d with result? }, s)
  | _ => do return (d, ← skip (← readColon s))

def shape : String := "struct BackendResponse"

/-- Read an answer from an array of its two parts. -/
def readParts (s : List Char) : Except Stop (BackendResponse × List Char) := do
  let short (n : Nat) (s : List Char) : Stop :=
    .here (.wrongLength n (shape ++ " with 2 elements")) (pastArray s)
  let (success?, s) ← item? true readStatus s
  match success? with
  | none => throw (short 0 s)
  | some success =>
    let (result?, s) ← item? false ResponseResult.read s
    match result? with
    | none => throw (short 1 s)
    | some result => return (⟨success, result⟩, ← closeArray s)

def read : List Char → Except Stop (BackendResponse × List Char) :=
  atValue fun
    | '\x7b' :: s => do
      let (d, s) ← readFields readField (s.length + 1) true {} s
      match d.success?, d.result? with
      | none, _ => throw (.here (.missingField "status") (pastObject s))
      | _, none => throw (.here (.missingField "result") (pastObject s))
      | some success, some result => return (⟨success, result⟩, pastObject s)
    | '[' :: s => readParts s
    | s => .error (unexpected shape s)

/-- The answer that a text spells, or what is wrong with the text. -/
def ofText (s : String) : Except String BackendResponse :=
  match readAll read s.toList with
  | .ok r => .ok r
  | .error stop => .error (stop.text s.toList)

end BackendResponse

end HarnessLink

import HarnessLink.Json.Typed

/-!
# Records from structured values

A record is read from an object by the names of its fields, or from an array by
their order. Fields of other names are passed over. The first value at fault is
reported; after that a field that must be there and is not, or an array of the
wrong length.
-/
namespace HarnessLink.Json

/-- A field of records in `ρ`: what its value does to the record. -/
structure Field (ρ : Type) where
  name : String
  required : Bool
  set : Json → ρ → Except Fault ρ

namespace Field

variable {ρ α : Type}

/-- A field that must be there. -/
def needed (name : String) (read : Json → Except Fault α) (put : α → ρ → ρ) : Field ρ :=
  ⟨name, true, fun v r => (read v).map fun a => put a r⟩

/-- A field that may be missing. -/
def optional (name : String) (read : Json → Except Fault α) (put : α → ρ → ρ) : Field ρ :=
  { needed name read put with required := false }

end Field

/-- The fields of a record in their order, and the record before any is set. -/
structure Shape (ρ : Type) where
  title : String
  fields : List (Field ρ)
  blank : ρ

/-- A count of elements. -/
def elements (n : Nat) : String := if n = 1 then "1 element" else s!"{n} elements"

namespace Shape

variable {ρ : Type}

/-- Set fields by name. -/
def setNamed (fields : List (Field ρ)) : List (String × Json) → ρ → Except Fault ρ
  | [], r => .ok r
  | (name, v) :: rest, r => do
    let r ← match fields.find? fun f => f.name = name with
      | some f => f.set v r
      | none => pure r
    setNamed fields rest r

/-- The first field that must be there and is not. -/
def missing? (fields : List (Field ρ)) (values : List (String × Json)) : Option String :=
  (fields.find? fun f => f.required && (values.lookup f.name).isNone).map Field.name

/-- Set fields in their order; `index` of them came before. -/
def setOrdered (whole : String) : Nat → List (Field ρ) → List Json → ρ → Except Fault ρ
  | _, [], [], r => .ok r
  | index, [], extra, _ =>
    .error (.wrongLength (index + extra.length) (elements index ++ " in sequence"))
  | index, f :: fields, [], r =>
    if f.required then .error (.wrongLength index whole) else setOrdered whole (index + 1) fields [] r
  | index, f :: fields, v :: rest, r => do
    setOrdered whole (index + 1) fields rest (← f.set v r)

def read (shape : Shape ρ) (v : Json) : Except Fault ρ :=
  match v with
  | object values => do
    let r ← setNamed shape.fields values shape.blank
    match missing? shape.fields values with
    | some name => throw (.missingField name)
    | none => return r
  | array items =>
    let whole := shape.title ++ " with " ++ elements shape.fields.length
    setOrdered whole 0 shape.fields items shape.blank
  | v => .error (.wrongType (describe v) shape.title)

end Shape

def textOf (v : Json) : Except Fault String :=
  match v with
  | string s => .ok s
  | v => .error (.wrongType (describe v) "a string")

/-- The word that a value is. -/
def wordOf (v : Json) : Except Fault UInt16 :=
  match v with
  | integer n =>
    if 0 ≤ n ∧ n ≤ 65535 then .ok (UInt16.ofNat n.toNat) else .error (.wrongValue (describe v) "u16")
  | v => .error (.wrongType (describe v) "u16")

def listOf (read : Json → Except Fault α) (v : Json) : Except Fault (List α) :=
  match v with
  | array items => items.mapM read
  | v => .error (.wrongType (describe v) "a sequence")

/-- A value that may be null. -/
def optionOf (read : Json → Except Fault α) (v : Json) : Except Fault (Option α) :=
  match v with
  | null => .ok none
  | v => (read v).map some

def deviceIdOf (v : Json) : Except Fault DeviceId := do
  match DeviceId.ofText (← textOf v) with
  | .ok id => return id
  | .error e => throw (.refused e.message)

end HarnessLink.Json

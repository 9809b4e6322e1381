import HarnessLink.Json.Record
import HarnessLink.Master.Command

/-!
# Requests of the backend

A request is an object with the name of an instruction and its parameters, or an
array of the same in order. Every request that can be read stands for at most
one command of the master; it stands for none when its mode, its state or a
device of a query is unknown.
-/
namespace HarnessLink

open Json

inductive Instruction where
  | configure
  | selectMode
  | control
  | reset
  | query
  deriving DecidableEq

namespace Instruction

def name : Instruction → String
  | configure => "DEV_CONF"
  | selectMode => "DEV_MODE"
  | control => "DEV_CTRL"
  | reset => "DEV_RESET"
  | query => "DEV_QUERY"

def all : List Instruction := [configure, selectMode, control, reset, query]

def ofName? (s : String) : Option Instruction := all.find? fun i => i.name = s

@[simp] theorem ofName?_name (i : Instruction) : ofName? i.name = some i := by
  cases i <;> decide

end Instruction

inductive BackendRequest where
  | configure (devices : List DeviceSetup)
  | selectMode (code : UInt8)
  | control (code : UInt8)
  | reset (devices : List DeviceReset)
  /-- Devices by their texts; an asterisk stands for all. -/
  | query (texts : List String)
  deriving DecidableEq

/-! ## Parameters -/

/-- Drop a mark as often as the text starts with it. -/
def dropMark (a b : Char) : List Char → List Char
  | c :: d :: rest => if c = a ∧ d = b then dropMark a b rest else c :: d :: rest
  | short => short

/-- The word spelled in hexadecimal digits, with or without a mark in front. -/
def hexWord? (s : String) : Option UInt16 :=
  match Text.Hex.number? (dropMark '0' 'X' (dropMark '0' 'x' (Text.trim s.toList))) with
  | some n => if n ≤ 65535 then some (UInt16.ofNat n) else none
  | none => none

/-- A set of pins: a word, or a text that spells one. -/
def pinsOf (v : Json) : Except Fault UInt16 :=
  match v with
  | .string s =>
    match hexWord? s with
    | some w => .ok w
    | none => .error (.refused ("invalid hex value " ++ Text.quoted s))
  | v => (wordOf v).mapError fun _ =>
    .refused "data did not match any variant of untagged enum HexOrNumber"

def ClipSetup.shape : Shape ClipSetup where
  title := "struct ClipParam"
  fields := [.optional "mode" byteOf fun mode c => { c with mode },
    .optional "pin" pinsOf fun pins c => { c with pins }]
  blank := ⟨0, 0⟩

def DeviceSetup.shape : Shape DeviceSetup where
  title := "struct ConfParam"
  fields := [.needed "id" deviceIdOf fun id d => { d with id },
    .optional "cond" wordOf fun conduction d => { d with conduction },
    .optional "Z" wordOf fun resistance d => { d with resistance },
    .optional "clip" (optionOf ClipSetup.shape.read) fun clip? d => { d with clip? }]
  blank := { id := ⟨0⟩, conduction := 0 }

def DeviceReset.shape : Shape DeviceReset where
  title := "struct ResetParam"
  fields := [.needed "id" deviceIdOf fun id d => { d with id },
    .optional "lock" byteOf fun lock d => { d with lock },
    .optional "clip" pinsOf fun clipLed d => { d with clipLed }]
  blank := ⟨⟨0⟩, 0, 0⟩

/-- A record of one field that must be there. -/
def soleField (variant name : String) (read : Json → Except Fault α) (blank : α) : Shape α where
  title := "struct variant Request::" ++ variant
  fields := [.needed name read fun a _ => a]
  blank := blank

/-- The two lists of devices of a query. -/
def queryShape : Shape (List String × List String) where
  title := "struct variant Request::Query"
  fields := [.optional "params" (listOf textOf) fun params lists => (params, lists.2),
    .optional "id" (listOf textOf) fun ids lists => (lists.1, ids)]
  blank := ([], [])

namespace BackendRequest

/-- Read the parameters of an instruction. -/
def read (i : Instruction) (v : Json) : Except Fault BackendRequest :=
  match i with
  | .configure =>
    ((soleField "Configure" "params" (listOf DeviceSetup.shape.read) []).read v).map configure
  | .selectMode => ((soleField "Mode" "mode" byteOf 0).read v).map selectMode
  | .control => ((soleField "Control" "ctrl" byteOf 0).read v).map control
  | .reset => ((soleField "Reset" "params" (listOf DeviceReset.shape.read) []).read v).map reset
  | .query => (queryShape.read v).map fun (params, ids) => query (params ++ ids)

/-- The instruction that a value names. -/
def instructionOf (v : Json) : Except Fault Instruction :=
  match v with
  | .string s =>
    match Instruction.ofName? s with
    | some i => .ok i
    | none => .error (.unknownVariant s (Instruction.all.map Instruction.name))
  | v => .error (.wrongType (describe v) "variant identifier")

/-- The field that names the instruction. -/
def tag : String := "inst"

def ofJson (v : Json) : Except Fault BackendRequest :=
  match v with
  | .object fields =>
    match fields.lookup tag with
    | some name => do read (← instructionOf name) v
    | none => .error (.missingField tag)
  | .array (name :: items) => do read (← instructionOf name) (.array items)
  | .array [] => .error (.missingField tag)
  | v => .error (.wrongType (describe v) "internally tagged enum Request")

/-- The command that a request stands for, or what is wrong with it. -/
def command : BackendRequest → Except String DeviceCommand
  | configure devices => .ok (.configure devices)
  | selectMode code =>
    match TestMode.ofCode? code with
    | some mode => .ok (.selectMode mode)
    | none => .error s!"unknown mode {code.toNat}"
  | control code =>
    match RunState.ofCode? code with
    | some state => .ok (.control state)
    | none => .error s!"unknown ctrl {code.toNat}"
  | reset devices => .ok (.reset devices)
  | query texts =>
    if texts.isEmpty || texts.contains "*" then .ok (.query .all)
    else
      match texts.mapM DeviceId.ofText with
      | .ok ids => .ok (.query (.devices ids))
      | .error e => .error e.message

end BackendRequest

end HarnessLink

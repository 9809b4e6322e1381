import HarnessLink.Cli.Arguments
import HarnessLink.Cli.Exit
import HarnessLink.Duration
import HarnessLink.Text.Blank

/-!
# Spans of time on the command line

A span is a number of seconds, or of the unit behind the number. It is not zero.
-/
namespace HarnessLink.Cli

inductive TimespanFault where
  | empty
  | invalid (text : String)
  | zero
  deriving DecidableEq

def TimespanFault.message : TimespanFault → String
  | empty => "duration must not be empty"
  | invalid text => s!"invalid duration value: {text}"
  | zero => "duration must be greater than zero"

namespace Timespan

/-- The largest number that a span is given by. -/
def maxCount : Nat := 18446744073709551615

/-- A count of units, with one plus sign allowed in front. -/
def count? (cs : List Char) : Option Nat :=
  let value? := match cs with
    | '+' :: digits => decimal? digits
    | digits => decimal? digits
  value?.filter fun n => n ≤ maxCount

/-- The number in front of the unit, and what a unit is. -/
def splitUnit (cs : List Char) : List Char × (Nat → Duration) :=
  match cs.reverse with
  | 's' :: 'm' :: number => (number.reverse, Duration.ofMillis)
  | 's' :: number => (number.reverse, Duration.ofSeconds)
  | number => (number.reverse, Duration.ofSeconds)

def read (s : String) : Except TimespanFault Duration :=
  let cs := Text.trim s.toList
  if cs.isEmpty then .error .empty
  else
    let (number, unit) := splitUnit cs
    match count? number with
    | none => .error (.invalid (String.ofList cs))
    | some 0 => .error .zero
    | some n => .ok (unit n)

end Timespan

end HarnessLink.Cli

/-!
# Spans of time

A span counts nanoseconds. Its text uses the largest unit of which it holds at
least one, with the decimals it needs and no trailing zeros. The seconds of a
span are counted in 64 bits and those of a clock in 63, so that sums of spans and
the ends of waits may not exist.
-/
namespace HarnessLink

structure Duration where
  nanos : Nat
  deriving DecidableEq

namespace Duration

def zero : Duration := ⟨0⟩

def ofMicros (n : Nat) : Duration := ⟨n * 1000⟩

def ofMillis (n : Nat) : Duration := ⟨n * 1000000⟩

def ofSeconds (n : Nat) : Duration := ⟨n * 1000000000⟩

/-- Whole milliseconds. -/
def millis (d : Duration) : Nat := d.nanos / 1000000

def add (a b : Duration) : Duration := ⟨a.nanos + b.nanos⟩

/-- What is left of `a` once `b` has passed; nothing when it is the longer. -/
def sub (a b : Duration) : Duration := ⟨a.nanos - b.nanos⟩

theorem sub_add (now d : Duration) : (now.add d).sub now = d := by
  simp [add, sub]

/-- What is left of a wait leads to its end. -/
theorem add_sub {due now : Duration} (h : due.sub now ≠ .zero) : now.add (due.sub now) = due := by
  have hleft : due.nanos - now.nanos ≠ 0 := fun hzero => h (congrArg Duration.mk hzero)
  exact congrArg Duration.mk (by simp only [sub]; omega)

def scale (d : Duration) (n : Nat) : Duration := ⟨d.nanos * n⟩

/-- The longest span. -/
def longest : Duration := ⟨18446744073709551615999999999⟩

/-- The span, unless it is longer than any. -/
def checked? (d : Duration) : Option Duration := if d.nanos ≤ longest.nanos then some d else none

def add? (a b : Duration) : Option Duration := (a.add b).checked?

def scale? (d : Duration) (n : Nat) : Option Duration := (d.scale n).checked?

/-- A multiple that stops at the longest span. -/
def scaleCapped (d : Duration) (n : Nat) : Duration := ⟨min longest.nanos (d.scale n).nanos⟩

/-- The last second that a clock counts. -/
def lastSecond : Nat := 9223372036854775807

/-- The time at the end of a span that starts now, unless the clock does not count
so far. -/
def deadline? (now span : Duration) : Option Duration :=
  if (now.add span).nanos / 1000000000 ≤ lastSecond then some (now.add span) else none

/-- Decimals of `part` out of `unit`, without trailing zeros. -/
def decimals (part unit : Nat) : List Char :=
  if part = 0 ∨ unit ≤ 1 then []
  else Char.ofNat (48 + part / (unit / 10) % 10) :: decimals (part % (unit / 10)) (unit / 10)
termination_by unit

/-- A count of units with its decimals. -/
def inUnit (nanos unit : Nat) (name : String) : String :=
  let fraction := decimals (nanos % unit) unit
  let point := if fraction.isEmpty then [] else ['.']
  toString (nanos / unit) ++ String.ofList (point ++ fraction) ++ name

def text (d : Duration) : String :=
  if 1000000000 ≤ d.nanos then inUnit d.nanos 1000000000 "s"
  else if 1000000 ≤ d.nanos then inUnit d.nanos 1000000 "ms"
  else if 1000 ≤ d.nanos then inUnit d.nanos 1000 "µs"
  else inUnit d.nanos 1 "ns"

end Duration

end HarnessLink

/-!
# Binary floating point

Finite numbers of binary floating point with 53 digits, as a mantissa and a
power of two. Arithmetic is exact up to one rounding to the nearest number, half
a unit going to the even mantissa. The text of a number uses the fewest digits
that only this number is nearest to.
-/
namespace HarnessLink

/-- The number `± mantissa · 2 ^ exponent`. Mantissas have at most 53 digits, and
exponents are at least `-1074`. -/
structure Binary64 where
  negative : Bool
  mantissa : Nat
  exponent : Int
  deriving DecidableEq

namespace Binary64

def leastExponent : Int := -1074

def twoTo (n : Nat) : Nat := Nat.pow 2 n

def tenTo (n : Nat) : Nat := Nat.pow 10 n

/-- A quotient to the nearest whole number, half a unit to the even one. -/
def divideToEven (num den : Nat) : Nat :=
  let whole := num / den
  let rest := num % den
  if den < 2 * rest ∨ (2 * rest = den ∧ whole % 2 = 1) then whole + 1 else whole

/-- `num / den` scaled down by a power of two, to the nearest whole number. -/
def scaledQuotient (num den : Nat) (exponent : Int) : Nat :=
  divideToEven (num * twoTo (-exponent).toNat) (den * twoTo exponent.toNat)

/-- Mantissa and exponent nearest to `num / den`, or none when that is larger
than every finite number. -/
def nearest (num den : Nat) : Option (Nat × Int) :=
  if num = 0 then some (0, leastExponent)
  else
    let low : Int := num.log2 - den.log2 - 53
    let fits := num * twoTo (-low).toNat < twoTo 53 * (den * twoTo low.toNat)
    let exponent := max leastExponent (if fits then low else low + 1)
    let mantissa := scaledQuotient num den exponent
    let (mantissa, exponent) :=
      if mantissa = twoTo 53 then (twoTo 52, exponent + 1) else (mantissa, exponent)
    if 971 < exponent then none else some (mantissa, exponent)

def ofParts (negative : Bool) (parts : Nat × Int) : Binary64 := ⟨negative, parts.1, parts.2⟩

/-- The number nearest to a quotient, if it is finite. -/
def ofQuotient? (negative : Bool) (num den : Nat) : Option Binary64 :=
  (nearest num den).map (ofParts negative)

def isZero (x : Binary64) : Bool := x.mantissa = 0

/-- Numerator and denominator of the absolute value. -/
def fraction (x : Binary64) : Nat × Nat :=
  (x.mantissa * twoTo x.exponent.toNat, twoTo (-x.exponent).toNat)

/-- The power of ten nearest to `10 ^ n`, for `n` up to 308. -/
def powerOfTen (n : Nat) : Binary64 :=
  (ofQuotient? false (tenTo n) 1).getD ⟨false, 0, leastExponent⟩

def mul? (x y : Binary64) : Option Binary64 :=
  let (a, b) := x.fraction
  let (c, d) := y.fraction
  ofQuotient? (x.negative != y.negative) (a * c) (b * d)

def div? (x y : Binary64) : Option Binary64 :=
  let (a, b) := x.fraction
  let (c, d) := y.fraction
  ofQuotient? (x.negative != y.negative) (a * d) (b * c)

/-- `digits · 10 ^ exponent`. The digits are rounded first and then multiplied
or divided by the rounded power of ten. Powers below `10 ^ -308` are divided out
in several steps, and a power above `10 ^ 308` is too large for any digits but
zero. -/
def ofDecimal? (digits : Nat) (exponent : Int) : Option Binary64 :=
  go (exponent.natAbs / 308 + 1) exponent =<< ofQuotient? false digits 1
where
  go : Nat → Int → Binary64 → Option Binary64
    | 0, _, x => some x
    | fuel + 1, exponent, x =>
      if exponent.natAbs ≤ 308 then
        if 0 ≤ exponent then x.mul? (powerOfTen exponent.natAbs)
        else x.div? (powerOfTen exponent.natAbs)
      else if x.isZero then some x
      else if 0 ≤ exponent then none
      else go fuel (exponent + 308) =<< x.div? (powerOfTen 308)

/-- The decimal `digits · 10 ^ exponent` reads back as `x`. -/
def readsAs (x : Binary64) (digits : Nat) (exponent : Int) : Bool :=
  nearest (digits * tenTo exponent.toNat) (tenTo (-exponent).toNat) = some (x.mantissa, x.exponent)

/-- Distance of `digits · 10 ^ exponent` from `x`, over a denominator that
depends on `x` and `exponent` alone. -/
def distance (x : Binary64) (digits : Nat) (exponent : Int) : Nat :=
  let (a, b) := x.fraction
  let mine := a * tenTo (-exponent).toNat
  let other := digits * tenTo exponent.toNat * b
  (mine - other) + (other - mine)

/-- The decimal with the fewest digits that reads back as `x`, the nearest of
those: digits and power of ten. `count` digits are tried next. -/
def shortestFrom (x : Binary64) (top : Int) : Nat → Nat → Nat × Int
  | 0, count => decimalAt count
  | fuel + 1, count =>
    let (digits, exponent) := decimalAt count
    if x.readsAs digits exponent then (digits, exponent) else shortestFrom x top fuel (count + 1)
where
  /-- The better of the two neighbours of `x` with `count` digits. -/
  decimalAt (count : Nat) : Nat × Int :=
    let exponent := top - count
    let (a, b) := x.fraction
    let below := a * tenTo (-exponent).toNat / (b * tenTo exponent.toNat)
    let readsBelow := x.readsAs below exponent
    let readsAbove := x.readsAs (below + 1) exponent
    let nearerAbove := x.distance (below + 1) exponent < x.distance below exponent
    let tie := x.distance (below + 1) exponent = x.distance below exponent
    if readsAbove && (!readsBelow || nearerAbove || (tie && below % 2 = 1)) then (below + 1, exponent)
    else (below, exponent)

def digitCount (n : Nat) : Nat := (Nat.toDigits 10 n).length

/-- The power of ten just above the absolute value of `x`. -/
def magnitude (x : Binary64) : Int :=
  let (a, b) := x.fraction
  let guess : Int := digitCount a - digitCount b
  if a * tenTo (-guess).toNat < b * tenTo guess.toNat then guess else guess + 1

def shortest (x : Binary64) : Nat × Int :=
  let (digits, exponent) := shortestFrom x x.magnitude 16 1
  let zeros := ((Nat.toDigits 10 digits).reverse.takeWhile (· = '0')).length
  (digits / tenTo zeros, exponent + zeros)

/-- The power of ten always has a sign, and no zeros in front. -/
def exponentText (e : Int) : List Char :=
  (if e < 0 then '-' else '+') :: Nat.toDigits 10 e.natAbs

/-- Numbers from `10 ^ -5` up to `10 ^ 16` are written with a point, and with a
zero behind it when they are whole; all others with a power of ten behind the
first digit. -/
def chars (x : Binary64) : List Char :=
  let sign := if x.negative then ['-'] else []
  if x.isZero then sign ++ ['0', '.', '0']
  else
    let (n, exponent) := x.shortest
    let digits := Nat.toDigits 10 n
    let point : Int := digits.length + exponent
    if -5 < point ∧ point ≤ 0 then
      sign ++ '0' :: '.' :: List.replicate (-point).toNat '0' ++ digits
    else if 0 < point ∧ point ≤ 16 then
      if digits.length ≤ point.toNat then
        sign ++ digits ++ List.replicate (point.toNat - digits.length) '0' ++ ['.', '0']
      else sign ++ digits.take point.toNat ++ '.' :: digits.drop point.toNat
    else
      let fraction := if digits.length = 1 then [] else '.' :: digits.drop 1
      sign ++ digits.take 1 ++ fraction ++ 'e' :: exponentText (point - 1)

def text (x : Binary64) : String := String.ofList x.chars

end Binary64

end HarnessLink

import HarnessLink.Json.Fault

/-!
# Words, numbers and strings

The parts of structured text that hold no other values. Every reader gives what
it read and the text behind it.
-/
namespace HarnessLink.Json

def isGap (c : Char) : Bool := c = ' ' || c = '\n' || c = '\t' || c = '\r'

def dropGaps (s : List Char) : List Char := s.dropWhile isGap

/-- The rest of a word whose first letter has been read. -/
def readWord : List Char → List Char → Except Stop (List Char)
  | [], s => .ok s
  | _ :: _, [] => .error (.here .endInValue [])
  | w :: word, c :: rest =>
    if c = w then readWord word rest else .error (.ahead .expectedWord (c :: rest))

/-! ## Strings -/

def escapeLetters : List (Char × Char) :=
  [('\x22', '\x22'), ('\\', '\\'), ('/', '/'), ('b', '\x08'), ('f', '\x0c'), ('n', '\n'),
   ('r', '\r'), ('t', '\t')]

/-- The number of four digits, and the text behind them. -/
def readHex4 (s : List Char) : Except Stop (Nat × { r : List Char // r.length ≤ s.length }) :=
  match s with
  | a :: b :: c :: d :: rest =>
    match [a, b, c, d].mapM Text.Hex.digit? with
    | some [x, y, z, w] =>
      .ok (((x * 16 + y) * 16 + z) * 16 + w, ⟨rest, by simp only [List.length_cons]; omega⟩)
    | _ => .error ⟨.badEscape, some (s, 4)⟩
  | short =>
    if 4 ≤ short.foldl (fun n c => n + c.utf8Size) 0 then .error ⟨.badEscape, some (short, 4)⟩
    else .error (.here .endInString [])

def isLead (n : Nat) : Bool := 0xD800 ≤ n && n ≤ 0xDBFF

def isTrail (n : Nat) : Bool := 0xDC00 ≤ n && n ≤ 0xDFFF

/-- A code point behind `\u`. Two halves spell a code point above `FFFF`. -/
def readCodePoint (s : List Char) : Except Stop (Char × { r : List Char // r.length ≤ s.length }) :=
  match readHex4 s with
  | .error e => .error e
  | .ok (n, ⟨rest, hr⟩) =>
    if isTrail n then .error (.here .loneSurrogate rest)
    else if isLead n then
      match rest, hr with
      | '\\' :: 'u' :: rest, hr =>
        match readHex4 rest with
        | .error e => .error e
        | .ok (m, ⟨rest', hr'⟩) =>
          if isTrail m then
            .ok (Char.ofNat ((n - 0xD800) * 1024 + (m - 0xDC00) + 0x10000),
              ⟨rest', by simp only [List.length_cons] at hr; omega⟩)
          else .error (.here .loneSurrogate rest')
      | ['\\'], _ | [], _ => .error (.here .endInString [])
      | '\\' :: rest, _ => .error (.ahead .unpairedEscape rest)
      | rest, _ => .error (.ahead .unpairedEscape rest)
    else .ok (Char.ofNat n, ⟨rest, hr⟩)

/-- The character of an escape whose backslash has been read. -/
def readEscape (s : List Char) : Except Stop (Char × { r : List Char // r.length ≤ s.length }) :=
  match s with
  | [] => .error (.here .endInString [])
  | 'u' :: rest =>
    (readCodePoint rest).map fun (c, r) =>
      (c, ⟨r.1, Nat.le_trans r.2 (by simp only [List.length_cons]; omega)⟩)
  | c :: rest =>
    match escapeLetters.lookup c with
    | some d => .ok (d, ⟨rest, by simp only [List.length_cons]; omega⟩)
    | none => .error (.ahead .badEscape (c :: rest))

/-- The characters of a string whose opening quote has been read. -/
def readChars (s : List Char) : Except Stop (List Char × List Char) :=
  match s with
  | [] => .error (.here .endInString [])
  | '\x22' :: rest => .ok ([], rest)
  | '\\' :: rest =>
    match readEscape rest with
    | .error e => .error e
    | .ok (c, ⟨rest', _hr⟩) => (readChars rest').map fun (cs, r) => (c :: cs, r)
  | c :: rest =>
    if c.toNat < 32 then .error (.here .controlInString rest)
    else (readChars rest).map fun (cs, r) => (c :: cs, r)
termination_by s.length
decreasing_by all_goals (simp only [List.length_cons]; omega)

def readString (s : List Char) : Except Stop (String × List Char) :=
  (readChars s).map fun (cs, r) => (String.ofList cs, r)

/-- Pass over a string whose opening quote has been read. Code points may be any
four digits. -/
def skipString (s : List Char) : Except Stop (List Char) :=
  match s with
  | [] => .error (.here .endInString [])
  | '\x22' :: rest => .ok rest
  | '\\' :: 'u' :: rest =>
    match readHex4 rest with
    | .error e => .error e
    | .ok (_, ⟨rest', _hr⟩) => skipString rest'
  | '\\' :: rest =>
    match readEscape rest with
    | .error e => .error e
    | .ok (_, ⟨rest', _hr⟩) => skipString rest'
  | c :: rest =>
    if c.toNat < 32 then .error (.here .controlInString (c :: rest)) else skipString rest
termination_by s.length
decreasing_by all_goals (simp only [List.length_cons]; omega)

/-! ## Numbers -/

/-- The parts of a number as they are written. -/
structure Numeral where
  negative : Bool
  whole : List Char
  fraction : List Char := []
  exponentNegative : Bool := false
  exponent : List Char := []
  /-- The text behind the digits of the exponent that fit, if some do not. -/
  exponentOverflow? : Option (List Char) := none
  /-- Whether a point or an exponent is written. -/
  isInteger : Bool := true

def takeDigits (s : List Char) : List Char × List Char := s.span Char.isDigit

/-- The value of digits behind the digits of `acc`. -/
def digitsValue (acc : Nat) (ds : List Char) : Nat :=
  ds.foldl (fun n c => 10 * n + (c.toNat - 48)) acc

/-- Exponents are limited to 31 bits. -/
def exponentLimit : Nat := 2147483647

/-- The text behind the digit that takes an exponent over its limit. -/
def overflowPoint? (acc : Nat) : List Char → Option (List Char)
  | [] => none
  | c :: rest =>
    let acc := 10 * acc + (c.toNat - 48)
    if c.isDigit then
      if exponentLimit < acc then some rest else overflowPoint? acc rest
    else none

/-- The exponent behind its letter. -/
def readExponent (n : Numeral) (ended : Fault) (s : List Char) :
    Except Stop (Numeral × List Char) :=
  let (negative, s) := match s with
    | '+' :: s => (false, s)
    | '-' :: s => (true, s)
    | s => (false, s)
  match s with
  | [] => .error (.here ended [])
  | c :: _ =>
    if c.isDigit then
      let (digits, rest) := takeDigits s
      .ok ({ n with exponentNegative := negative, exponent := digits,
                    exponentOverflow? := overflowPoint? 0 s, isInteger := false }, rest)
    else .error (.ahead .badNumber s)

def readAfterFraction (n : Numeral) (ended : Fault) : List Char → Except Stop (Numeral × List Char)
  | 'e' :: rest | 'E' :: rest => readExponent n ended rest
  | rest => .ok (n, rest)

/-- What may stand behind the whole part. -/
def readAfterWhole (n : Numeral) (ended : Fault) : List Char → Except Stop (Numeral × List Char)
  | '.' :: s =>
    let (digits, rest) := takeDigits s
    if digits.isEmpty then .error (.ahead (if rest.isEmpty then ended else .badNumber) rest)
    else readAfterFraction { n with fraction := digits, isInteger := false } ended rest
  | rest => readAfterFraction n ended rest

/-- A number whose sign has been read: a whole part without needless zeros, a
fraction and an exponent. `ended` is the fault of a text that ends inside it. -/
def readNumeral (negative : Bool) (ended : Fault) : List Char → Except Stop (Numeral × List Char)
  | [] => .error (.here ended [])
  | '0' :: rest =>
    match rest with
    | c :: _ =>
      if c.isDigit then .error (.ahead .badNumber rest)
      else readAfterWhole { negative, whole := ['0'] } ended rest
    | [] => readAfterWhole { negative, whole := ['0'] } ended rest
  | c :: rest =>
    if c.isDigit then
      let (digits, rest) := takeDigits (c :: rest)
      readAfterWhole { negative, whole := digits } ended rest
    else .error (.ahead .badNumber (c :: rest))

/-- Significands are limited to 64 bits. -/
def significandLimit : Nat := 18446744073709551615

/-- As many leading digits as fit the significand, behind the digits of `acc`. -/
def fittingDigits (acc : Nat) : List Char → Nat × List Char
  | [] => (acc, [])
  | c :: rest =>
    let next := 10 * acc + (c.toNat - 48)
    if significandLimit < next then (acc, c :: rest) else fittingDigits next rest

namespace Numeral

/-- Significand and power of ten before the exponent. Digits of the whole part
that do not fit count as zeros, and digits of the fraction that do not fit are
dropped. -/
def significand (n : Numeral) : Nat × Int :=
  let (whole, excess) := fittingDigits 0 n.whole
  if excess.isEmpty then
    let (value, dropped) := fittingDigits whole n.fraction
    (value, -((n.fraction.length - dropped.length : Nat) : Int))
  else
    let (value, dropped) := fittingDigits whole n.fraction
    (value, excess.length - ((n.fraction.length - dropped.length : Nat) : Int))

def exponentValue (n : Numeral) : Int :=
  let value : Int := digitsValue 0 n.exponent
  if n.exponentNegative then -value else value

/-- Whole numbers that fit 64 bits, with or without a sign, stay whole. All
others, and a zero with a minus sign, are the nearest binary number, which must
be finite. `rest` is the text behind the number. -/
def value (n : Numeral) (rest : List Char) : Except Stop Json :=
  let (digits, exponent) := n.significand
  let written := digitsValue 0 n.whole
  if n.isInteger && !n.negative && written ≤ significandLimit then .ok (.natural written)
  else if n.isInteger && n.negative && 0 < written && written ≤ 9223372036854775808 then
    .ok (.integer (-written))
  else
    match n.exponentOverflow? with
    | some behind =>
      if digits ≠ 0 && !n.exponentNegative then .error (.here .numberRange behind)
      else .ok (.real ⟨n.negative, 0, Binary64.leastExponent⟩)
    | none =>
      match Binary64.ofDecimal? digits (exponent + n.exponentValue) with
      | some x => .ok (.real { x with negative := n.negative })
      | none => .error (.here .numberRange rest)

end Numeral

def readNumber (negative : Bool) (s : List Char) : Except Stop (Json × List Char) := do
  let (n, rest) ← readNumeral negative .endInValue s
  return (← n.value rest, rest)

def skipNumber (s : List Char) : Except Stop (List Char) :=
  (readNumeral false .badNumber s).map Prod.snd

end HarnessLink.Json

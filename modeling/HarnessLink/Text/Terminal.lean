/-!
# Text without orders to a terminal

A terminal takes controls, and sequences that start with an escape, as orders.
Without them only what it would show is left of a text. Line ends and tabs are
shown inside a sequence too; then the text behind them is shown as well, up to
the next order.
-/
namespace HarnessLink.Text

/-- Text in bold print. -/
def bold (s : String) : String := "\x1b[1m" ++ s ++ "\x1b[0m"

/-- Text in bold print with a line below. -/
def underlined (s : String) : String := "\x1b[1m\x1b[4m" ++ s ++ "\x1b[0m"

/-- The sequence that a text is in. -/
inductive Sequence where
  | outside
  | escape
  | escapeParts
  | control
  | command
  | device
  /-- A string that only its terminator ends. -/
  | body
  deriving DecidableEq

def isWithin (first last : Nat) (c : Char) : Bool := first ≤ c.toNat && c.toNat ≤ last

/-- Line ends, tabs and form feeds. -/
def isLayout (c : Char) : Bool := c = '\t' || c = '\n' || c = '\x0c' || c = '\r'

/-- A character that has a place on the screen. -/
def isShown (c : Char) : Bool := isLayout c || isWithin 0x20 0x7E c || 0x80 ≤ c.toNat

/-- The encoding of a character holds, behind its first byte, the byte that ends
a string. -/
def holdsTerminator (c : Char) : Bool :=
  let n := c.toNat
  0x80 ≤ n && (n % 64 = 28 || (0x800 ≤ n && n / 64 % 64 = 28) || (0x10000 ≤ n && n / 4096 % 64 = 28))

namespace Sequence

/-- The sequence that goes on behind the character after an escape. -/
def opened (c : Char) : Sequence :=
  if isWithin 0x20 0x2F c then escapeParts
  else if c = '[' then control
  else if c = ']' then command
  else if c = 'P' then device
  else if c = 'X' || c = '^' || c = '_' then body
  else if isWithin 0x30 0x7E c then outside
  else escape

/-- The sequence behind a character. -/
def next (s : Sequence) (c : Char) : Sequence :=
  if c = '\x1b' then escape
  else if c = '\x18' || c = '\x1a' then outside
  else match s with
  | outside => outside
  | escape => opened c
  | escapeParts => if isWithin 0x30 0x7E c then outside else escapeParts
  | control => if isWithin 0x40 0x7E c then outside else control
  | command => if c = '\x07' then outside else command
  | device => if isWithin 0x40 0x7E c then body else device
  | body => if holdsTerminator c then outside else body

/-- A character in a sequence is shown. -/
def shows (s : Sequence) (c : Char) : Bool :=
  match s with
  | outside => isShown c
  | escape | escapeParts | control => isLayout c
  | command | device | body => false

end Sequence

/-- What is shown of a text in a sequence. While characters are being shown, the
sequence is not looked at. -/
def shownFrom : Sequence → Bool → List Char → List Char
  | _, _, [] => []
  | s, showing, c :: rest =>
    if showing && isShown c then
      c :: shownFrom (if 0x80 ≤ c.toNat then .outside else s) true rest
    else if s.shows c then c :: shownFrom (s.next c) true rest
    else shownFrom (s.next c) false rest

def withoutOrders (s : String) : String := String.ofList (shownFrom .outside false s.toList)

example : withoutOrders (bold "a" ++ "\x07") = "a" := by decide +kernel

end HarnessLink.Text

import HarnessLink.Text.Emoji
import HarnessLink.Text.Width

/-!
# Columns of text

Some characters are drawn together, and then they take fewer columns than each
for itself: ligatures of several scripts, and pictures that are joined, coloured
or selected. A text is measured from its end, so that every character is seen
together with what follows it.
-/
namespace HarnessLink.Text

/-- What follows a character, as far as it bears on its columns. -/
inductive Following where
  | other
  | lineFeed
  /-- An alef, with nothing before it that ends joined writing. -/
  | alef
  | lamed (joined : Bool)
  | ya (joined : Bool)
  /-- A vowel sign that is joined to a ya. -/
  | vowelYa
  | consonant (joined : Bool)
  /-- A sign that joins consonants, and a consonant. -/
  | boundConsonant
  | tone
  | orkhonI (joined : Bool)
  /-- A letter that can be written below another. -/
  | subscript
  | vowelE
  | vowelAi
  | skinTone
  | flag
  | flags
  | picture
  | joinedPicture
  | joinedKeycap
  | joinedFlag
  | joinedFlags (even : Bool)
  /-- Letters that name a flag, and a picture that is joined to them. -/
  | tags (letters : Nat)
  deriving DecidableEq

/-- How the character before a selector is to be drawn. -/
inductive Selector where
  | text
  | picture
  | wide
  deriving DecidableEq

def Selector.of? (c : Char) : Option Selector :=
  if c = '\ufe01' then some wide
  else if c = '\ufe0e' then some text
  else if c = '\ufe0f' then some picture
  else none

/-- The character that joins its neighbours. -/
def joiner : Char := '\u200d'

/-! ## Letters of ligatures -/

def alefRanges : CodeRanges :=
  [(0x622, 0x623), (0x625, 0x625), (0x627, 0x627), (0x671, 0x673), (0x675, 0x675),
   (0x773, 0x774), (0x870, 0x882)]

def lamRanges : CodeRanges :=
  [(0x644, 0x644), (0x6B5, 0x6B8), (0x76A, 0x76A), (0x8A6, 0x8A6), (0x8C7, 0x8C7)]

def consonantRanges : CodeRanges := [(0x2D31, 0x2D65), (0x2D6F, 0x2D6F)]

def subscriptRanges : CodeRanges :=
  [(0x1780, 0x1782), (0x1784, 0x1787), (0x1789, 0x178C), (0x178E, 0x1793), (0x1795, 0x1798),
   (0x179B, 0x179D), (0x17A0, 0x17A0), (0x17A2, 0x17A2), (0x17A7, 0x17A7), (0x17AB, 0x17AC),
   (0x17AF, 0x17AF)]

def firstToneRanges : CodeRanges := [(0xA4F8, 0xA4FB)]

def secondToneRanges : CodeRanges := [(0xA4FC, 0xA4FD)]

/-- Marks that are not drawn, and do not part a ligature. -/
def unseenMarkRanges : CodeRanges :=
  [(0x34F, 0x34F), (0x17B4, 0x17B5), (0x180B, 0x180D), (0x180F, 0x180F), (0xFE00, 0xFE0F),
   (0xE0100, 0xE01EF)]

def isConsonant (c : Char) : Bool := consonantRanges.holds c.toNat

def isTagLetter (c : Char) : Bool := 0xE0061 ≤ c.toNat && c.toNat ≤ 0xE007A

def isQuoteMark (c : Char) : Bool :=
  c = '\u2018' || c = '\u2019' || c = '\u201c' || c = '\u201d'

namespace Following

/-- What a character is to the one before it. -/
def of (c : Char) : Following :=
  if c = '\n' then lineFeed
  else if c = '\u05dc' then lamed false
  else if c = '\u1a10' then ya false
  else if c.toNat = 0x10C03 then orkhonI false
  else if c.toNat = 0x16D67 then vowelE
  else if c.toNat = 0x16D68 then vowelAi
  else if alefRanges.holds c.toNat then alef
  else if isConsonant c then consonant false
  else if secondToneRanges.holds c.toNat then tone
  else if subscriptRanges.holds c.toNat then subscript
  else if isFlagLetter c then flag
  else if isSkinTone c then skinTone
  else if isPicture c then picture
  else other

/-- The end of a ligature, which unseen marks do not part. -/
def endsLigature : Following → Bool
  | alef | lamed _ | ya _ | vowelYa | consonant _ | boundConsonant | tone | orkhonI _ | subscript
  | vowelE | vowelAi => true
  | _ => false

/-- A picture that the one before it is joined to. -/
def isJoined : Following → Bool
  | joinedPicture | joinedKeycap => true
  | _ => false

/-- The end of a ligature behind a joiner. -/
def join : Following → Following
  | lamed _ => lamed true
  | ya _ => ya true
  | consonant _ => consonant true
  | orkhonI _ => orkhonI true
  | f => f

/-- A character that is drawn together with what follows: the columns that it
adds, and what both are to the character before them. -/
def together? (f : Following) (c : Char) : Option (Int × Following) :=
  match f with
  | alef =>
    if lamRanges.holds c.toNat then some (0, other)
    else if isTransparent c then some (0, alef)
    else none
  | lamed true => if c = '\u05d0' then some (0, other) else none
  | ya true => if c = '\u1a17' then some (0, vowelYa) else none
  | vowelYa => if c = '\u1a15' then some (0, other) else none
  | consonant joined =>
    if c = '\u2d7f' then some (1, boundConsonant)
    else if joined && isConsonant c then some (0, other)
    else none
  | boundConsonant => if isConsonant c then some (-1, other) else none
  | tone => if firstToneRanges.holds c.toNat then some (0, other) else none
  | orkhonI true => if c.toNat = 0x10C32 then some (0, other) else none
  | subscript => if c = '\u17d2' then some (-1, other) else none
  | vowelE =>
    if c.toNat = 0x16D63 || c.toNat = 0x16D69 then some (0, other)
    else if c.toNat = 0x16D67 then some (0, vowelAi)
    else if c.toNat = 0x16D68 then some (1, vowelE)
    else none
  | vowelAi => if c.toNat = 0x16D63 then some (0, other) else none
  | skinTone =>
    if hasSkin c then some (0, picture)
    else if c = joiner then some (0, joinedPicture)
    else none
  | flag => if isFlagLetter c then some (1, flags) else none
  | flags =>
    if isFlagLetter c then some (1, flags)
    else if c = joiner then some (0, joinedPicture)
    else none
  | picture => if c = joiner then some (0, joinedPicture) else none
  | joinedPicture =>
    if c = '\u20e3' then some (0, joinedKeycap)
    else if isFlagLetter c then some (1, joinedFlag)
    else if isSkinTone c then some (0, skinTone)
    else if c.toNat = 0xE007F then some (0, tags 0)
    else if isPicture c then some (0, picture)
    else none
  | joinedFlag | joinedFlags false =>
    if isFlagLetter c then some (-1, joinedFlags true) else none
  | joinedFlags true =>
    if isFlagLetter c then some (3, joinedFlags false)
    else if c = joiner then some (0, joinedPicture)
    else none
  | tags letters =>
    if isTagLetter c && letters < 6 then some (0, tags (letters + 1))
    else if c.toNat = 0x1F3F4 && 3 ≤ letters then some (0, picture)
    else none
  | _ => none

/-- A character before what follows it. -/
def before (f : Following) (c : Char) : Int × Following :=
  if f.endsLigature && f ≠ alef && c = joiner then (0, f.join)
  else if f.endsLigature && f ≠ alef && unseenMarkRanges.holds c.toNat then (0, f)
  else (f.together? c).getD (columnsOf c, of c)

end Following

/-- What has been measured of a text, to the character before it. -/
structure Context where
  following : Following := .other
  /-- The selector that stands in front. -/
  selector? : Option Selector := none
  deriving DecidableEq

namespace Context

/-- A selector stands in front. It parts what is neither a ligature nor, if a
picture is asked for, joined to one. -/
def select (s : Selector) (x : Context) : Context :=
  if x.following.endsLigature || (s = .picture && x.following.isJoined) then
    { x with selector? := some s }
  else ⟨.other, some s⟩

/-- A character stands in front: the columns that it adds, and the new
context. -/
def before (x : Context) (c : Char) : Int × Context :=
  if x.selector? = some .picture && isSelectable c then
    (if x.following.isJoined then 0 else 2, ⟨.picture, none⟩)
  else if c.toNat ≤ 0xA0 then
    (if c = '\r' && x = ⟨.lineFeed, none⟩ then 0 else 1, ⟨Following.of c, none⟩)
  else
    match Selector.of? c with
    | some s => (0, x.select s)
    | none =>
      if x.selector? = some .text && narrowsAsText c then (1, {})
      else if x.selector? = some .wide && isQuoteMark c then (2, {})
      else
        let (added, following) := x.following.before c
        (added, ⟨following, none⟩)

end Context

/-- A character in front of a text that has been measured. -/
def measure (c : Char) (rest : Int × Context) : Int × Context :=
  let (added, context) := rest.2.before c
  (rest.1 + added, context)

/-- The columns that a text takes. -/
def columns (s : String) : Nat := (s.toList.foldr measure (0, {})).1.toNat

example : columns "ab" = 2 := by decide +kernel

example : columns "\u2764\ufe0f" = 2 := by decide +kernel

end HarnessLink.Text

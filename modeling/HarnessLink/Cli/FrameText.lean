import HarnessLink.Cli.Exit
import HarnessLink.Text.Hex

/-!
# Frames as text

The bytes of a frame are typed as pairs of hexadecimal digits. Blanks, colons and
dashes between digits do not matter, and a mark may stand in front. A pair is
read as a number, so a plus sign may take the place of its first digit.
-/
namespace HarnessLink.Cli

inductive FrameTextFault where
  | empty
  | odd (digits : Nat)
  | badByte (pair : String)
  deriving DecidableEq

def FrameTextFault.message : FrameTextFault → String
  | empty => "frame hex must not be empty"
  | odd digits => s!"odd number of hex digits ({digits})"
  | badByte pair => "invalid hex byte " ++ Text.quoted pair

namespace FrameText

/-- Bytes that may stand between digits: blanks, colons and dashes. -/
def isSeparator (b : UInt8) : Bool :=
  b = 0x20 || b = 0x09 || b = 0x0A || b = 0x0C || b = 0x0D || b = 0x3A || b = 0x2D

/-- Drop a mark in front. -/
def dropMark : Bytes → Bytes
  | 0x30 :: 0x78 :: rest => rest
  | digits => digits

/-- What is left of a text once separators and mark are dropped. -/
def digits (text : String) : Bytes :=
  dropMark (text.toUTF8.data.toList.filter fun b => !isSeparator b)

/-- Two bytes as text; empty when they are no text. -/
def pairText (a b : UInt8) : String :=
  if a < 0x80 ∧ b < 0x80 then String.ofList [Char.ofNat a.toNat, Char.ofNat b.toNat]
  else if 0xC2 ≤ a ∧ a ≤ 0xDF ∧ 0x80 ≤ b ∧ b ≤ 0xBF then
    String.ofList [Char.ofNat ((a.toNat - 0xC0) * 64 + (b.toNat - 0x80))]
  else ""

/-- Read pairs of digits. -/
def readPairs : Bytes → Except FrameTextFault Bytes
  | a :: b :: rest =>
    match Text.Hex.byte? (Char.ofNat a.toNat) (Char.ofNat b.toNat) with
    | some byte => (readPairs rest).map fun bytes => byte :: bytes
    | none => .error (.badByte (pairText a b))
  | _ => .ok []

/-- The bytes of a frame that a text spells. -/
def read (text : String) : Except FrameTextFault Bytes :=
  let digits := digits text
  if digits.isEmpty then .error .empty
  else if digits.length % 2 = 1 then .error (.odd digits.length)
  else readPairs digits

/-- The capital digits of bytes. -/
def write (bytes : Bytes) : String := String.ofList (Text.Hex.bytes bytes)

end FrameText

end HarnessLink.Cli

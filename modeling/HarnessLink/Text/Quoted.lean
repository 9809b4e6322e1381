import HarnessLink.Text.Graphic
import HarnessLink.Text.Hex

/-!
# Quoted text

Text in double quotes. Quotes and backslashes take a backslash, five controls
have letters of their own, and every other character that is not graphic is
written by its code point.
-/
namespace HarnessLink.Text

/-- How a character is written between double quotes. -/
def escape (c : Char) : List Char :=
  match c with
  | '\x00' => ['\\', '0']
  | '\t' => ['\\', 't']
  | '\r' => ['\\', 'r']
  | '\n' => ['\\', 'n']
  | '\x22' => ['\\', '\x22']
  | '\\' => ['\\', '\\']
  | c =>
    if isGraphic c then [c]
    else ['\\', 'u', '\x7b'] ++ Hex.lowerNumber c.toNat ++ ['\x7d']

def quoted (s : String) : String :=
  String.ofList ('\x22' :: s.toList.flatMap escape ++ ['\x22'])

end HarnessLink.Text

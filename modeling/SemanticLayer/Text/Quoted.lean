import SemanticLayer.Text.Blank
import SemanticLayer.Text.Width
/-!
Texts in quotes as messages show them. The quote and the backslash are escaped, and so is every
character that cannot be seen by itself: controls, blanks other than the space, combining and
invisible characters, and those of private use.
-/
namespace SemanticLayer.Text

/-- The lower-case hexadecimal digits of a number, without leading zeros. -/
def hexText (n : Nat) : List Char := Nat.toDigits 16 n

/-- Whether a character cannot be seen by itself. -/
def isHidden (c : Char) : Bool :=
  let n := c.toNat
  n < 0x20 || (0x7F ≤ n && n < 0xA0) || n = 0xAD || (isBlank c && c != ' ')
    || (0xE000 ≤ n && n < 0xF900) || 0xE0000 ≤ n || charWidth c = 0

/-- How a character is shown between quotes. -/
def quotedChar (c : Char) : List Char :=
  if c = '"' || c = '\\' then ['\\', c]
  else if c = '\t' then ['\\', 't']
  else if c = '\n' then ['\\', 'n']
  else if c = '\r' then ['\\', 'r']
  else if c.toNat = 0 then ['\\', '0']
  else if isHidden c then '\\' :: 'u' :: '{' :: (hexText c.toNat ++ ['}'])
  else [c]

/-- A text in quotes. -/
def quoted (s : String) : String :=
  String.ofList ('"' :: s.toList.flatMap quotedChar ++ ['"'])

end SemanticLayer.Text

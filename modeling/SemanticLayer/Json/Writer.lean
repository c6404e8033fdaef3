import SemanticLayer.Json.Basic
import SemanticLayer.Number.Shortest
/-!
JSON values as text: compact, without any white space, and pretty, with two spaces for each level.
In strings the quote, the backslash and the control characters are escaped, and nothing else.
-/
namespace SemanticLayer.Json

/-- The hexadecimal digit of a number below sixteen. -/
def hexDigit (n : Nat) : Char :=
  if n < 10 then Char.ofNat (48 + n) else Char.ofNat (87 + n)

/-- How a character is written inside a string. -/
def escapeChar (c : Char) : List Char :=
  if c = '"' then ['\\', '"']
  else if c = '\\' then ['\\', '\\']
  else if c.toNat < 0x20 then
    if c = '\n' then ['\\', 'n']
    else if c = '\r' then ['\\', 'r']
    else if c = '\t' then ['\\', 't']
    else if c.toNat = 0x8 then ['\\', 'b']
    else if c.toNat = 0xC then ['\\', 'f']
    else ['\\', 'u', '0', '0', hexDigit (c.toNat / 16), hexDigit (c.toNat % 16)]
  else [c]

/-- A string between quotes. -/
def quote (s : String) : List Char :=
  '"' :: s.toList.flatMap escapeChar ++ ['"']

/-- A number, a truth value or null, and the quoted form of a string. -/
def scalarText : Json → List Char
  | .null => ['n', 'u', 'l', 'l']
  | .bool true => ['t', 'r', 'u', 'e']
  | .bool false => ['f', 'a', 'l', 's', 'e']
  | .int n => (toString n).toList
  | .double d => d.render.toList
  | .str s => quote s
  | .arr _ => []
  | .obj _ => []

mutual
/-- The characters of the compact text of a value. -/
def compactChars : Json → List Char
  | .arr items => '[' :: compactItems items ++ [']']
  | .obj members => '{' :: compactMembers members ++ ['}']
  | v => scalarText v
/-- The items of an array with a comma between neighbours. -/
def compactItems : List Json → List Char
  | [] => []
  | [v] => compactChars v
  | v :: rest => compactChars v ++ ',' :: compactItems rest
/-- The members of an object with a comma between neighbours. -/
def compactMembers : List (String × Json) → List Char
  | [] => []
  | [(k, v)] => quote k ++ ':' :: compactChars v
  | (k, v) :: rest => quote k ++ ':' :: compactChars v ++ ',' :: compactMembers rest
end

/-- The compact text of a value. -/
def compact (v : Json) : String := String.ofList (compactChars v)

/-- A line break and the indentation of a level. -/
def newline (level : Nat) : List Char := '\n' :: List.replicate (2 * level) ' '

mutual
/-- The characters of the pretty text of a value at a level. -/
def prettyChars (level : Nat) : Json → List Char
  | .arr [] => ['[', ']']
  | .arr items => '[' :: prettyItems (level + 1) items ++ newline level ++ [']']
  | .obj [] => ['{', '}']
  | .obj members => '{' :: prettyMembers (level + 1) members ++ newline level ++ ['}']
  | v => scalarText v
/-- The items of an array, each on a line of its own. -/
def prettyItems (level : Nat) : List Json → List Char
  | [] => []
  | [v] => newline level ++ prettyChars level v
  | v :: rest => newline level ++ prettyChars level v ++ ',' :: prettyItems level rest
/-- The members of an object, each on a line of its own. -/
def prettyMembers (level : Nat) : List (String × Json) → List Char
  | [] => []
  | [(k, v)] => newline level ++ quote k ++ ':' :: ' ' :: prettyChars level v
  | (k, v) :: rest =>
    newline level ++ quote k ++ ':' :: ' ' :: prettyChars level v ++ ',' :: prettyMembers level rest
end

/-- The pretty text of a value. -/
def pretty (v : Json) : String := String.ofList (prettyChars 0 v)

end SemanticLayer.Json

/-!
The character classes of YAML texts.
-/
namespace SemanticLayer.Yaml

/-- A line break. -/
def isBreak (c : Char) : Bool :=
  c = '\n' || c = '\r' || c.toNat = 0x85 || c.toNat = 0x2028 || c.toNat = 0x2029

/-- A space or a tab. -/
def isGap (c : Char) : Bool := c = ' ' || c = '\t'

/-- A space, a tab or a line break. -/
def isSpacing (c : Char) : Bool := isGap c || isBreak c

/-- Whether the text ends here or goes on with a space, a tab or a line break. -/
def atSpacing : List Char → Bool
  | [] => true
  | c :: _ => isSpacing c

/-- A character that may be written as it is, without an escape. -/
def isPrintable (c : Char) : Bool :=
  let n := c.toNat
  n = 0xA || (0x20 ≤ n && n ≤ 0x7E) || (0xA0 ≤ n && n ≤ 0xD7FF)
    || (0xE000 ≤ n && n ≤ 0xFFFD && n != 0xFEFF) || 0x10000 ≤ n

/-- A character that may occur in a YAML text at all. -/
def isAllowed (c : Char) : Bool :=
  let n := c.toNat
  n = 0x9 || n = 0xA || n = 0xD || (0x20 ≤ n && n ≤ 0x7E) || n = 0x85
    || (0xA0 ≤ n && n ≤ 0xD7FF) || (0xE000 ≤ n && n ≤ 0xFFFD) || 0x10000 ≤ n

/-- A character of a word: a letter, a digit, a hyphen or an underscore. -/
def isWord (c : Char) : Bool := c.isAlphanum || c = '-' || c = '_'

/-- Whether the text starts with `---` or `...`, which separate documents at the start of a line. -/
def atDocumentMarker : List Char → Bool
  | '-' :: '-' :: '-' :: rest => atSpacing rest
  | '.' :: '.' :: '.' :: rest => atSpacing rest
  | _ => false

end SemanticLayer.Yaml

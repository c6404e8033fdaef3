import SemanticLayer.Text.CaseTable
import SemanticLayer.Text.Range
/-!
Lower case of whole texts by the Unicode rules. All characters are mapped one by one except two:
`İ` becomes `i` and a combining dot, and a capital sigma becomes the final sigma when a cased letter
stands before it and none behind it, ignorable characters aside.
-/
namespace SemanticLayer.Text

/-- The property `Cased`. -/
def isCased (c : Char) : Bool := inRanges casedRanges c

/-- The property `Case_Ignorable`. -/
def isCaseIgnorable (c : Char) : Bool := inRanges caseIgnorableRanges c

/-- The lower-case form of a single character. -/
def lowerChar (c : Char) : List Char :=
  let n := c.toNat
  if n < 128 then [c.toLower]
  else if n = 0x130 then ['i', Char.ofNat 0x307]
  else
    match lowerShifts.find? fun e => e.1 ≤ n && n ≤ e.2.1 && (n - e.1) % e.2.2.1 = 0 with
    | some (_, _, _, shift) => [Char.ofNat ((n : Int) + shift).toNat]
    | none => [c]

/-- Whether the first character that is not ignorable is cased. -/
def casedNext (cs : List Char) : Bool :=
  match cs.dropWhile isCaseIgnorable with
  | c :: _ => isCased c
  | [] => false

/-- The lower case of `rest`, where `before` holds the characters before it, the nearest first. -/
def lowerFrom (before : List Char) : List Char → List Char
  | [] => []
  | c :: rest =>
    let mapped :=
      if c.toNat = 0x3A3 then
        if casedNext before && !casedNext rest then [Char.ofNat 0x3C2] else [Char.ofNat 0x3C3]
      else lowerChar c
    mapped ++ lowerFrom (c :: before) rest

/-- The text in lower case. -/
def lower (s : String) : String := String.ofList (lowerFrom [] s.toList)

end SemanticLayer.Text

import SemanticLayer.Yaml.Chars
/-!
A place in a YAML text. Lines and columns count characters from zero; a carriage return and a line
feed together are one break.
-/
namespace SemanticLayer.Yaml

/-- A place: how many characters stand before it, its line and its column. -/
structure Mark where
  index : Nat
  line : Nat
  column : Nat
  deriving DecidableEq, Repr, Inhabited

/-- The start of a text. -/
def Mark.origin : Mark := ⟨0, 0, 0⟩

/-- The place behind a character that is no line break. -/
def Mark.next (m : Mark) : Mark := ⟨m.index + 1, m.line, m.column + 1⟩

/-- The place behind a line break of `width` characters. -/
def Mark.nextLine (width : Nat) (m : Mark) : Mark := ⟨m.index + width, m.line + 1, 0⟩

/-- The wording of a place, counted from one. -/
def Mark.text (m : Mark) : String := s!"line {m.line + 1} column {m.column + 1}"

/-- Why a text cannot be read, and where. -/
structure Fault where
  /-- What is wrong. -/
  problem : String
  /-- Where it was noticed. -/
  mark : Mark
  deriving DecidableEq, Repr

/-- The wording of a fault; the start of the text is not named. -/
def Fault.message (f : Fault) : String :=
  if f.mark.line = 0 ∧ f.mark.column = 0 then f.problem else s!"{f.problem} at {f.mark.text}"

/-- What is left of a text and where it starts. -/
structure Cursor where
  rest : List Char
  mark : Mark
  deriving Repr, Inhabited

namespace Cursor

/-- A fault at the cursor. -/
def fault (c : Cursor) (problem : String) : Fault := ⟨problem, c.mark⟩

/-- The cursor behind the next character, which is no line break. -/
def step (c : Cursor) : Cursor := ⟨c.rest.tail, c.mark.next⟩

/-- The cursor behind the next `count` characters, none of them a line break. -/
def steps : Nat → Cursor → Cursor
  | 0, c => c
  | count + 1, c => steps count c.step

/-- The cursor behind the line break at the cursor, and the characters that it stands for: the
separators of lines and paragraphs stand for themselves, every other break for a line feed. -/
def lineBreak (c : Cursor) : List Char × Cursor :=
  match c.rest with
  | '\r' :: '\n' :: rest => (['\n'], ⟨rest, c.mark.nextLine 2⟩)
  | x :: rest =>
    (if x.toNat = 0x2028 || x.toNat = 0x2029 then [x] else ['\n'], ⟨rest, c.mark.nextLine 1⟩)
  | [] => ([], c)

/-- The characters at the front that satisfy `p`, none of them a line break, and the cursor behind
them. -/
def span (p : Char → Bool) (rest : List Char) (mark : Mark) : List Char × Cursor :=
  match rest with
  | [] => ([], ⟨[], mark⟩)
  | x :: tail =>
    if p x then
      let (xs, c) := span p tail mark.next
      (x :: xs, c)
    else ([], ⟨x :: tail, mark⟩)

/-- The cursor behind the characters at the front that satisfy `p`. -/
def skipWhile (p : Char → Bool) (c : Cursor) : Cursor := (span p c.rest c.mark).2

/-- Whether the next character satisfies `p`. -/
def at? (p : Char → Bool) (c : Cursor) : Bool :=
  match c.rest with
  | x :: _ => p x
  | [] => false

end Cursor
end SemanticLayer.Yaml

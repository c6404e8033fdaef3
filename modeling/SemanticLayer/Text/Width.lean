import SemanticLayer.Text.EmojiTable
import SemanticLayer.Text.Range
import SemanticLayer.Text.WidthTable
/-!
The number of columns that a text takes on a fixed-pitch display. A character has a width of its own;
an emoji of several characters takes two columns as a whole, and an Arabic lam with the alef after it
takes one.
-/
namespace SemanticLayer.Text

/-- The columns of one character: none for combining and invisible ones, two for wide ones. -/
def charWidth (c : Char) : Nat :=
  if c.toNat < 0xAD then 1
  else if inRanges zeroWidthRanges c then 0
  else if inRanges wideRanges c then 2
  else 1

/-- What the rest of a text begins with, as far as it changes the width of the character before. -/
inductive Ahead where
  | plain
  /-- A whole emoji. -/
  | emoji
  /-- A joiner, and the emoji that it joins to the one before. -/
  | joined
  /-- A skin tone. -/
  | tone
  /-- The emoji selector, before a joiner or not. -/
  | emojiForm (joined : Bool)
  /-- The text selector. -/
  | textForm
  /-- An Arabic alef. -/
  | alef
  deriving DecidableEq, Repr

/-- Whether a character is a wide emoji by itself. -/
def isEmoji (c : Char) : Bool :=
  inRanges [(0x231A, 0x231B), (0x23E9, 0x262F), (0x2638, 0x2689), (0x2690, 0x2B55),
    (0x1F004, 0x1FAFF)] c && inRanges wideRanges c

/-- Whether a character is a skin tone. -/
def isTone (c : Char) : Bool := inRanges [(0x1F3FB, 0x1F3FF)] c

/-- Whether a character has the joining group lam. -/
def isLam (c : Char) : Bool :=
  inRanges [(0x644, 0x644), (0x6B5, 0x6B8), (0x76A, 0x76A), (0x8A6, 0x8A6), (0x8C7, 0x8C7)] c

/-- Whether a character has the joining group alef. -/
def isAlef (c : Char) : Bool :=
  inRanges [(0x622, 0x623), (0x625, 0x625), (0x627, 0x627), (0x671, 0x673), (0x675, 0x675),
    (0x773, 0x774), (0x870, 0x882)] c

/-- The columns that a wide emoji adds to what is ahead of it. -/
def emojiWidth (c : Char) : Ahead → Nat
  | .joined | .emojiForm true => 0
  | .tone => if inRanges skinRanges c then 0 else 2
  | .textForm => 1
  | _ => 2

/-- The columns that a narrow symbol with an emoji form adds to what is ahead of it, and whether it
is an emoji there. -/
def symbolWidth (c : Char) : Ahead → Nat × Bool
  | .emojiForm joined => (if joined then 0 else 2, true)
  | .tone => if inRanges skinRanges c then (0, true) else (1, false)
  | _ => (1, false)

/-- The columns that a character adds to what is ahead of it, and what the two begin with. -/
def widthBefore (c : Char) (ahead : Ahead) : Nat × Ahead :=
  if c = '\ufe0f' then (0, .emojiForm (ahead = .joined))
  else if c = '\ufe0e' then (0, .textForm)
  else if c = '\u200d' then (0, if ahead = .emoji then .joined else .plain)
  else if isTone c then (emojiWidth c ahead, .tone)
  else if isAlef c then (1, .alef)
  else if ahead = .alef && isLam c then (0, .plain)
  else if charWidth c = 0 then (0, if ahead = .alef then .alef else .plain)
  else if isEmoji c then
    (emojiWidth c ahead, if ahead = .textForm then .plain else .emoji)
  else if inRanges symbolRanges c then
    let (columns, emoji) := symbolWidth c ahead
    (columns, if emoji then .emoji else .plain)
  else (charWidth c, .plain)

/-- The columns of a text, and what it begins with. -/
def widthAhead (cs : List Char) : Nat × Ahead :=
  cs.foldr (fun c (columns, ahead) =>
    let (more, first) := widthBefore c ahead
    (more + columns, first)) (0, .plain)

/-- The columns of a text. -/
def width (s : String) : Nat := (widthAhead s.toList).1

end SemanticLayer.Text

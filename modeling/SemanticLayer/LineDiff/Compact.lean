import SemanticLayer.LineDiff.Shortest
/-!
Edit scripts with changes drawn together. An added block slides up over kept lines that agree with
its own last ones, and down over those that agree with its first ones; changes that come to stand
side by side are merged. What a script starts from and ends with stays the same.
-/
namespace SemanticLayer.LineDiff

/-- A script with a place in it: the blocks before, the nearest first, a block, and those behind. -/
structure Focus where
  before : List Block
  block : Block
  behind : List Block

/-- Puts kept lines in front of some blocks. -/
def keepBefore (lines : List String) : List Block → List Block
  | .keep more :: rest => .keep (lines ++ more) :: rest
  | blocks => .keep lines :: blocks

/-- Puts kept lines behind some reversed blocks. -/
def keepBehind (lines : List String) : List Block → List Block
  | .keep more :: rest => .keep (more ++ lines) :: rest
  | blocks => .keep lines :: blocks

/-- Slides a change up as far as it goes, at most `fuel` steps. -/
def slideUp : Nat → Focus → Focus
  | 0, f => f
  | fuel + 1, f =>
    match f.before, f.block with
    | .keep kept :: before, .add lines =>
      let count := commonPrefix kept.reverse lines.reverse
      if 0 < count then
        let shared := lines.drop (lines.length - count)
        slideUp fuel ⟨unlessNone .keep (kept.take (kept.length - count)) ++ before,
          .add (shared ++ lines.take (lines.length - count)), keepBefore shared f.behind⟩
      else if kept.isEmpty then slideUp fuel { f with before := before } else f
    | .keep kept :: before, .drop _ =>
      if kept.isEmpty then slideUp fuel { f with before := before } else f
    | .drop lines :: before, .add _ => slideUp fuel ⟨before, f.block, .drop lines :: f.behind⟩
    | .add lines :: before, .drop _ => slideUp fuel ⟨before, f.block, .add lines :: f.behind⟩
    | .add lines :: before, .add more => slideUp fuel ⟨before, .add (lines ++ more), f.behind⟩
    | .drop lines :: before, .drop more => slideUp fuel ⟨before, .drop (lines ++ more), f.behind⟩
    | _, _ => f

/-- Slides a change down as far as it goes, at most `fuel` steps. -/
def slideDown : Nat → Focus → Focus
  | 0, f => f
  | fuel + 1, f =>
    match f.behind, f.block with
    | .keep kept :: behind, .add lines =>
      let count := commonPrefix kept lines
      if 0 < count then
        let shared := lines.take count
        slideDown fuel ⟨keepBehind shared f.before, .add (lines.drop count ++ shared),
          unlessNone .keep (kept.drop count) ++ behind⟩
      else if kept.isEmpty then slideDown fuel { f with behind := behind } else f
    | .keep kept :: behind, .drop _ =>
      if kept.isEmpty then slideDown fuel { f with behind := behind } else f
    | .drop lines :: behind, .add _ => slideDown fuel ⟨.drop lines :: f.before, f.block, behind⟩
    | .add lines :: behind, .drop _ => slideDown fuel ⟨.add lines :: f.before, f.block, behind⟩
    | .add more :: behind, .add lines => slideDown fuel ⟨f.before, .add (lines ++ more), behind⟩
    | .drop more :: behind, .drop lines => slideDown fuel ⟨f.before, .drop (lines ++ more), behind⟩
    | _, _ => f

/-- Slides every block of a kind up and then down, from the first one on. `done` are the blocks so
far, reversed. -/
def slideAll (chosen : Block → Bool) (steps : Nat) : Nat → List Block → List Block → List Block
  | _, done, [] => done.reverse
  | 0, done, blocks => done.reverse ++ blocks
  | fuel + 1, done, block :: rest =>
    if chosen block then
      let f := slideDown steps (slideUp steps ⟨done, block, rest⟩)
      slideAll chosen steps fuel (f.block :: f.before) f.behind
    else slideAll chosen steps fuel (block :: done) rest

/-- Whether a block drops lines. -/
def isDrop : Block → Bool
  | .drop _ => true
  | _ => false

/-- Whether a block adds lines. -/
def isAdd : Block → Bool
  | .add _ => true
  | _ => false

/-- Draws changes together, first those that drop lines and then those that add some. -/
def compact (script : List Block) : List Block :=
  let size := script.length + (script.map (·.lines.length)).foldl (· + ·) 0 + 1
  let fuel := 4 * size * size
  slideAll isAdd fuel fuel [] (slideAll isDrop fuel fuel [] script)

/-- The differences between two texts, line by line. -/
def lineDiff (old new : String) : String :=
  render (compact (shortestScript (linesOf old) (linesOf new)))

end SemanticLayer.LineDiff

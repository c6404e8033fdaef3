import Mathlib
import SemanticLayer.LineDiff.Compact

/-! Edit scripts lead where they should. A script leads from one list of lines to another if its kept and dropped
lines are the one and its kept and added lines the other. Wherever the search splits the lists, the script that it
gives leads from the first to the second, since only lines that agree are kept. A change that slides over kept lines
takes as many of them on one side as it leaves on the other, so no step of the compaction changes where a script
leads. Main statement: `compact_leads`. -/
namespace SemanticLayer.LineDiff

/-- A script that goes from one list of lines to another. -/
structure Leads (old new : List String) (script : List Block) : Prop where
  starts : oldLines script = old
  ends : newLines script = new

/-! ### Parts of scripts -/

section Parts
variable {old new lines : List String} {script more : List Block} {block : Block}

@[simp] theorem oldLines_nil : oldLines [] = [] := rfl

@[simp] theorem newLines_nil : newLines [] = [] := rfl

@[simp] theorem oldLines_cons : oldLines (block :: script) = block.old ++ oldLines script := List.flatMap_cons

@[simp] theorem newLines_cons : newLines (block :: script) = block.new ++ newLines script := List.flatMap_cons

@[simp] theorem oldLines_append : oldLines (script ++ more) = oldLines script ++ oldLines more := List.flatMap_append

@[simp] theorem newLines_append : newLines (script ++ more) = newLines script ++ newLines more := List.flatMap_append

/-- A block that is left out has no lines. -/
theorem oldLines_unlessNone {kind : List String → Block} (none : (kind []).old = []) :
    oldLines (unlessNone kind lines) = (kind lines).old := by
  unfold unlessNone
  split
  · rename_i empty
    rw [List.isEmpty_iff.mp empty, none, oldLines_nil]
  · rw [oldLines_cons, oldLines_nil, List.append_nil]

theorem newLines_unlessNone {kind : List String → Block} (none : (kind []).new = []) :
    newLines (unlessNone kind lines) = (kind lines).new := by
  unfold unlessNone
  split
  · rename_i empty
    rw [List.isEmpty_iff.mp empty, none, newLines_nil]
  · rw [newLines_cons, newLines_nil, List.append_nil]

/-- Scripts for the parts of two lists make a script for the lists. -/
theorem Leads.append {old' new' : List String} (one : Leads old new script) (other : Leads old' new' more) :
    Leads (old ++ old') (new ++ new') (script ++ more) :=
  ⟨by rw [oldLines_append, one.starts, other.starts], by rw [newLines_append, one.ends, other.ends]⟩

theorem Leads.halves {x y : Nat} (one : Leads (old.take x) (new.take y) script)
    (other : Leads (old.drop x) (new.drop y) more) : Leads old new (script ++ more) := by
  have both := one.append other
  rwa [List.take_append_drop, List.take_append_drop] at both

theorem keep_leads (lines : List String) : Leads lines lines (unlessNone .keep lines) :=
  ⟨oldLines_unlessNone rfl, newLines_unlessNone rfl⟩

/-- All lines of the one are dropped and all of the other added. -/
theorem replace_leads (old new : List String) : Leads old new (unlessNone .drop old ++ unlessNone .add new) := by
  constructor
  · rw [oldLines_append, oldLines_unlessNone rfl, oldLines_unlessNone rfl]
    exact List.append_nil old
  · rw [newLines_append, newLines_unlessNone rfl, newLines_unlessNone rfl]
    exact List.nil_append new

end Parts

/-! ### The search -/

theorem take_commonPrefix (xs ys : List String) : xs.take (commonPrefix xs ys) = ys.take (commonPrefix xs ys) := by
  induction xs generalizing ys with
  | nil => cases ys <;> rfl
  | cons x xs ih =>
    cases ys with
    | nil => rfl
    | cons y ys =>
      rw [commonPrefix]
      split
      · rename_i same
        rw [List.take_succ_cons, List.take_succ_cons, ih, same]
      · rfl

/-- Two lists agree in as many of their last lines as their reversals in first ones. -/
theorem drop_commonSuffix (xs ys : List String) : xs.drop (xs.length - commonPrefix xs.reverse ys.reverse) =
    ys.drop (ys.length - commonPrefix xs.reverse ys.reverse) := by
  have ends := congrArg List.reverse (take_commonPrefix xs.reverse ys.reverse)
  simpa only [List.reverse_take, List.length_reverse, List.reverse_reverse] using ends

/-- Between lines that agree at both ends, a script leads on from the lines of the one to those of the other. -/
theorem trimmed_leads {script : List Block} {start back : Nat} {old new : List String}
    (first : old.take start = new.take start)
    (last : (old.drop start).drop ((old.drop start).length - back) =
      (new.drop start).drop ((new.drop start).length - back))
    (between : Leads ((old.drop start).take ((old.drop start).length - back))
      ((new.drop start).take ((new.drop start).length - back)) script) :
    Leads old new (unlessNone .keep (old.take start) ++ script
      ++ unlessNone .keep ((old.drop start).drop ((old.drop start).length - back))) := by
  have whole := ((keep_leads (old.take start)).append between).append
    (keep_leads ((old.drop start).drop ((old.drop start).length - back)))
  have oldSides : old.take start ++ (old.drop start).take ((old.drop start).length - back)
      ++ (old.drop start).drop ((old.drop start).length - back) = old := by
    rw [List.append_assoc, List.take_append_drop, List.take_append_drop]
  have newSides : old.take start ++ (new.drop start).take ((new.drop start).length - back)
      ++ (old.drop start).drop ((old.drop start).length - back) = new := by
    rw [first, last, List.append_assoc, List.take_append_drop, List.take_append_drop]
  rwa [oldSides, newSides] at whole

/-- The script leads from the one list to the other, however it was split. -/
theorem scriptFrom_leads (fuel : Nat) (old new : List String) : Leads old new (scriptFrom fuel old new) := by
  induction fuel generalizing old new with
  | zero => exact replace_leads old new
  | succ fuel ih =>
    refine trimmed_leads (take_commonPrefix _ _) (drop_commonSuffix _ _) ?_
    split
    · exact replace_leads _ _
    · split
      · rename_i x y _
        exact (ih _ _).halves (ih _ _)
      · constructor <;> simp [Block.old, Block.new]

theorem shortestScript_leads (old new : List String) : Leads old new (shortestScript old new) :=
  scriptFrom_leads _ old new

/-! ### The compaction -/

/-- Two scripts that start from the same lines and end with the same. -/
structure SameEnds (script other : List Block) : Prop where
  old : oldLines script = oldLines other
  new : newLines script = newLines other

/-- The script that a focus is in. -/
def Focus.script (f : Focus) : List Block := f.before.reverse ++ f.block :: f.behind

section Compaction
variable {old new lines kept : List String} {script other third before behind blocks : List Block}

@[refl] theorem SameEnds.refl (script : List Block) : SameEnds script script := ⟨rfl, rfl⟩

theorem SameEnds.trans (one : SameEnds script other) (two : SameEnds other third) : SameEnds script third :=
  ⟨one.old.trans two.old, one.new.trans two.new⟩

theorem SameEnds.leads (same : SameEnds other script) (leads : Leads old new script) : Leads old new other :=
  ⟨same.old.trans leads.starts, same.new.trans leads.ends⟩

@[simp] theorem oldLines_unlessNone_keep : oldLines (unlessNone .keep lines) = lines := (keep_leads lines).starts

@[simp] theorem newLines_unlessNone_keep : newLines (unlessNone .keep lines) = lines := (keep_leads lines).ends

@[simp] theorem oldLines_keepBefore : oldLines (keepBefore lines blocks) = lines ++ oldLines blocks := by
  unfold keepBefore
  split <;> simp [Block.old]

@[simp] theorem newLines_keepBefore : newLines (keepBefore lines blocks) = lines ++ newLines blocks := by
  unfold keepBefore
  split <;> simp [Block.new]

@[simp] theorem oldLines_keepBehind :
    oldLines (keepBehind lines blocks).reverse = oldLines blocks.reverse ++ lines := by
  unfold keepBehind
  split <;> simp [Block.old]

@[simp] theorem newLines_keepBehind :
    newLines (keepBehind lines blocks).reverse = newLines blocks.reverse ++ lines := by
  unfold keepBehind
  split <;> simp [Block.new]

theorem reverse_unlessNone {kind : List String → Block} : (unlessNone kind lines).reverse = unlessNone kind lines := by
  unfold unlessNone
  split <;> rfl

@[simp] theorem oldLines_script (f : Focus) :
    oldLines f.script = oldLines f.before.reverse ++ (f.block.old ++ oldLines f.behind) := by
  rw [Focus.script, oldLines_append, oldLines_cons]

@[simp] theorem newLines_script (f : Focus) :
    newLines f.script = newLines f.before.reverse ++ (f.block.new ++ newLines f.behind) := by
  rw [Focus.script, newLines_append, newLines_cons]

/-- Added lines slide up over kept ones that agree with their last ones: what is kept behind them afterwards was
added last before. -/
theorem slid_up_sameEnds : SameEnds
    (Focus.script ⟨unlessNone .keep (kept.take (kept.length - commonPrefix kept.reverse lines.reverse)) ++ before,
      .add (lines.drop (lines.length - commonPrefix kept.reverse lines.reverse)
        ++ lines.take (lines.length - commonPrefix kept.reverse lines.reverse)),
      keepBefore (lines.drop (lines.length - commonPrefix kept.reverse lines.reverse)) behind⟩)
    (Focus.script ⟨.keep kept :: before, .add lines, behind⟩) := by
  have shared := drop_commonSuffix kept lines
  constructor
  · simp only [oldLines_script, List.reverse_append, reverse_unlessNone, List.reverse_cons, oldLines_append,
      oldLines_cons, oldLines_nil, Block.old, oldLines_keepBefore, oldLines_unlessNone_keep, List.append_nil,
      List.nil_append, List.append_assoc]
    rw [← shared, ← List.append_assoc (kept.take _), List.take_append_drop]
  · simp only [newLines_script, List.reverse_append, reverse_unlessNone, List.reverse_cons, newLines_append,
      newLines_cons, newLines_nil, Block.new, newLines_keepBefore, newLines_unlessNone_keep, List.append_nil,
      List.append_assoc]
    rw [← List.append_assoc (lines.take _), List.take_append_drop, ← shared, ← List.append_assoc (kept.take _),
      List.take_append_drop]

/-- Added lines slide down over kept ones that agree with their first ones. -/
theorem slid_down_sameEnds : SameEnds
    (Focus.script ⟨keepBehind (lines.take (commonPrefix kept lines)) before,
      .add (lines.drop (commonPrefix kept lines) ++ lines.take (commonPrefix kept lines)),
      unlessNone .keep (kept.drop (commonPrefix kept lines)) ++ behind⟩)
    (Focus.script ⟨before, .add lines, .keep kept :: behind⟩) := by
  have shared := take_commonPrefix kept lines
  constructor
  · simp only [oldLines_script, oldLines_append, oldLines_cons, Block.old, oldLines_keepBehind,
      oldLines_unlessNone_keep, List.nil_append, List.append_assoc]
    rw [← shared, ← List.append_assoc (kept.take _), List.take_append_drop]
  · simp only [newLines_script, newLines_append, newLines_cons, Block.new, newLines_keepBehind,
      newLines_unlessNone_keep, List.append_assoc]
    rw [← List.append_assoc (lines.take _), List.take_append_drop, ← shared, ← List.append_assoc (kept.take _),
      List.take_append_drop]

/-- Sliding up changes neither end, in any number of steps: a step takes over lines that agree, passes a change of
the other kind or merges with one of its own. -/
theorem slideUp_sameEnds (fuel : Nat) (f : Focus) : SameEnds (slideUp fuel f).script f.script := by
  fun_induction slideUp fuel f with
  | case1 f => rfl
  | case2 fuel f kept before lines here above count agree shared ih =>
    obtain ⟨_, _, behind⟩ := f
    subst here above
    exact ih.trans slid_up_sameEnds
  | case3 fuel f kept before lines here above count apart empty ih =>
    exact ih.trans (by constructor <;> simp [above, List.isEmpty_iff.mp empty, Block.old, Block.new])
  | case4 => rfl
  | case5 fuel f kept before lines here above empty ih =>
    exact ih.trans (by constructor <;> simp [above, List.isEmpty_iff.mp empty, Block.old, Block.new])
  | case6 => rfl
  | case7 fuel f dropped before lines here above ih =>
    exact ih.trans (by constructor <;> simp [here, above, Block.old, Block.new])
  | case8 fuel f added before lines here above ih =>
    exact ih.trans (by constructor <;> simp [here, above, Block.old, Block.new])
  | case9 fuel f lines before more here above ih =>
    exact ih.trans (by constructor <;> simp [here, above, Block.old, Block.new])
  | case10 fuel f lines before more here above ih =>
    exact ih.trans (by constructor <;> simp [here, above, Block.old, Block.new])
  | case11 => rfl

theorem slideDown_sameEnds (fuel : Nat) (f : Focus) : SameEnds (slideDown fuel f).script f.script := by
  fun_induction slideDown fuel f with
  | case1 f => rfl
  | case2 fuel f kept behind lines here below count agree shared ih =>
    obtain ⟨before, _, _⟩ := f
    subst here below
    exact ih.trans slid_down_sameEnds
  | case3 fuel f kept behind lines here below count apart empty ih =>
    exact ih.trans (by constructor <;> simp [below, List.isEmpty_iff.mp empty, Block.old, Block.new])
  | case4 => rfl
  | case5 fuel f kept behind lines here below empty ih =>
    exact ih.trans (by constructor <;> simp [below, List.isEmpty_iff.mp empty, Block.old, Block.new])
  | case6 => rfl
  | case7 fuel f dropped behind lines here below ih =>
    exact ih.trans (by constructor <;> simp [here, below, Block.old, Block.new])
  | case8 fuel f added behind lines here below ih =>
    exact ih.trans (by constructor <;> simp [here, below, Block.old, Block.new])
  | case9 fuel f more behind lines here below ih =>
    exact ih.trans (by constructor <;> simp [here, below, Block.old, Block.new])
  | case10 fuel f more behind lines here below ih =>
    exact ih.trans (by constructor <;> simp [here, below, Block.old, Block.new])
  | case11 => rfl

/-- Block after block is slid, and the script keeps its ends. -/
theorem slideAll_sameEnds (chosen : Block → Bool) (steps fuel : Nat) (done blocks : List Block) :
    SameEnds (slideAll chosen steps fuel done blocks) (done.reverse ++ blocks) := by
  induction fuel generalizing done blocks with
  | zero =>
    cases blocks with
    | nil => simp [slideAll, SameEnds.refl]
    | cons block rest => rfl
  | succ fuel ih =>
    cases blocks with
    | nil => simp [slideAll, SameEnds.refl]
    | cons block rest =>
      rw [slideAll]
      split
      · refine (ih _ _).trans ?_
        rw [List.reverse_cons, List.append_assoc, List.singleton_append]
        exact (slideDown_sameEnds steps _).trans (slideUp_sameEnds steps ⟨done, block, rest⟩)
      · simpa using ih (block :: done) rest

theorem compact_sameEnds (script : List Block) : SameEnds (compact script) script :=
  (slideAll_sameEnds _ _ _ [] _).trans (slideAll_sameEnds _ _ _ [] script)

/-- The script whose changes were drawn together leads from the one list to the other. -/
theorem compact_leads (old new : List String) : Leads old new (compact (shortestScript old new)) :=
  (compact_sameEnds _).leads (shortestScript_leads old new)

/-- The order in which a script is written does not change where it leads. -/
theorem grouped_leads (leads : Leads old new script) (dropped added : List String) :
    Leads (dropped ++ old) (added ++ new) (grouped dropped added script) := by
  induction script generalizing dropped added old new with
  | nil =>
    obtain ⟨rfl, rfl⟩ := leads
    constructor <;> simp [grouped, Block.old, Block.new]
  | cons block script ih =>
    obtain ⟨rfl, rfl⟩ := leads
    have rest := ih ⟨rfl, rfl⟩
    cases block with
    | keep lines => constructor <;> simp [grouped, Block.old, Block.new, (rest [] []).starts, (rest [] []).ends]
    | drop lines =>
      rw [grouped]
      simpa [Block.old, Block.new] using rest (dropped ++ lines) added
    | add lines =>
      rw [grouped]
      simpa [Block.old, Block.new] using rest dropped (added ++ lines)

end Compaction
end SemanticLayer.LineDiff

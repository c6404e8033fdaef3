import SemanticLayer.Proofs.EditScripts

/-! What a difference of two texts tells of them. Each line of a text is written on a line of its own with a sign in
front, also a last one that no line feed ends, so the written lines are the lines of the script. Those with the sign
of the one text or with that of both are the lines of this text, for every script that leads from the lines of the one
to those of the other; only whether its last line was ended is lost. Main statement: `lineDiff_reproduces`. -/
namespace SemanticLayer.LineDiff

/-! ### The lines of a text -/

/-- The lines of a text without the line feeds that end them. What follows the last line feed is a line unless
nothing does. -/
def plainLines (text : List Char) : List (List Char) :=
  let pieces := text.splitOn '\n'
  if pieces.getLast? = some [] then pieces.dropLast else pieces

/-- A text with a line feed at its end. Nothing needs none. -/
def ended (text : List Char) : List Char :=
  match text.getLast? with
  | none => []
  | some c => if c = '\n' then text else text ++ ['\n']

section Lines
variable {line rest text : List Char}

theorem plainLines_break (plain : '\n' ∉ line) (rest : List Char) :
    plainLines (line ++ '\n' :: rest) = line :: plainLines rest := by
  have pieces : (line ++ '\n' :: rest).splitOn '\n' = line :: rest.splitOn '\n' :=
    List.splitOnP_append_cons_of_forall_mem
      (fun c member => beq_eq_false_iff_ne.mpr (ne_of_mem_of_not_mem member plain)) '\n' rfl rest
  simp only [plainLines, pieces]
  cases found : rest.splitOn '\n' with
  | nil => exact absurd found (List.splitOn_ne_nil _ _)
  | cons piece more =>
    rw [List.getLast?_cons_cons, List.dropLast_cons_cons]
    split <;> rfl

theorem plainLines_last (plain : '\n' ∉ line) (some : line ≠ []) : plainLines line = [line] := by
  simp [plainLines, List.splitOn_eq_singleton plain, some]

/-- A text is a line that nothing ends, maybe an empty one, or a line that is ended with a text behind it. -/
theorem text_cases {motive : List Char → Prop} (last : ∀ line, '\n' ∉ line → motive line)
    (broken : ∀ line rest, '\n' ∉ line → motive rest → motive (line ++ '\n' :: rest)) (text : List Char) :
    motive text := by
  induction size : text.length using Nat.strongRecOn generalizing text with
  | ind size ih =>
    by_cases feed : '\n' ∈ text
    · obtain ⟨line, rest, rfl, plain⟩ := List.eq_append_cons_of_mem feed
      rw [List.length_append, List.length_cons] at size
      exact broken line rest plain (ih rest.length (by omega) rest rfl)
    · exact last text feed

/-- The lines of a text, each ended, are the text ended. -/
theorem plainLines_joined (text : List Char) : (plainLines text).flatMap (· ++ ['\n']) = ended text := by
  induction text using text_cases with
  | last line plain =>
    by_cases none : line = []
    · rw [none]
      rfl
    · have other : line.getLast none ≠ '\n' := ne_of_mem_of_not_mem (List.getLast_mem none) plain
      simp [plainLines_last plain none, ended, List.getLast?_eq_some_getLast none, other]
  | broken line rest plain ih =>
    rw [plainLines_break plain, List.flatMap_cons, ih]
    have behind : (line ++ '\n' :: rest).getLast? = some (rest.getLast?.getD '\n') := by
      cases rest <;> simp [List.getLast?_cons]
    cases final : rest.getLast? with
    | none => simp [ended, List.getLast?_eq_none_iff.mp final]
    | some c =>
      simp only [ended, behind, final, Option.getD_some]
      split <;> simp

theorem plainLines_written {lines : List (List Char)} (plain : ∀ line ∈ lines, '\n' ∉ line) :
    plainLines (lines.flatMap (· ++ ['\n'])) = lines := by
  induction lines with
  | nil => rfl
  | cons line lines ih =>
    rw [List.flatMap_cons, List.append_assoc, List.singleton_append, plainLines_break (plain line List.mem_cons_self),
      ih fun other later => plain other (List.mem_cons_of_mem line later)]

end Lines

/-! ### Lines with their ends -/

/-- A line without the line feed that ends it. -/
def content (line : List Char) : List Char := line.takeWhile (· ≠ '\n')

/-- A line of a text that has no carriage returns: its content, and maybe a line feed behind it. -/
structure Whole (line : List Char) : Prop where
  returns : '\r' ∉ line
  form : line = content line ∨ line = content line ++ ['\n']

section Ends
variable {line text : List Char} {sign : Char}

theorem content_plain (line : List Char) : '\n' ∉ content line := fun member => by
  simpa using List.mem_takeWhile_imp member

theorem content_ended (plain : '\n' ∉ line) : content (line ++ ['\n']) = line := by
  rw [content, List.takeWhile_append_of_pos (by simpa using fun c member => ne_of_mem_of_not_mem member plain)]
  simp

theorem content_last (plain : '\n' ∉ line) : content line = line :=
  List.takeWhile_eq_self_iff.mpr (by simpa using fun c member => ne_of_mem_of_not_mem member plain)

/-- What is read of a text without carriage returns are its lines, with their ends. -/
theorem splitLines_content (line text : List Char) (plain : '\n' ∉ line) (returns : '\r' ∉ line.reverse ++ text) :
    (splitLines line text).map content = plainLines (line.reverse ++ text) ∧
      ∀ whole ∈ splitLines line text, Whole whole := by
  fun_induction splitLines line text with
  | case1 line empty =>
    rw [List.isEmpty_iff.mp empty]
    exact ⟨rfl, List.forall_mem_nil _⟩
  | case2 line some =>
    have plain : '\n' ∉ line.reverse := by simpa using plain
    have some : line.reverse ≠ [] := by simpa using some
    rw [List.append_nil] at returns ⊢
    have same := content_last plain
    refine ⟨by simp [same, plainLines_last plain some], ?_⟩
    rw [List.forall_mem_singleton]
    exact ⟨returns, .inl same.symm⟩
  | case3 line rest ih => simp at returns
  | case4 line c rest notBoth ends ih =>
    have plain : '\n' ∉ line.reverse := by simpa using plain
    have feed : c = '\n' := by
      have other : c ≠ '\r' := fun same => by simp [same] at returns
      simpa [other] using ends
    subst feed
    have before : '\r' ∉ line.reverse := fun member => returns (List.mem_append_left _ member)
    have after : '\r' ∉ rest := fun member => returns (by simp [member])
    obtain ⟨contents, wholes⟩ := ih List.not_mem_nil (by simpa using after)
    have same := content_ended plain
    rw [List.reverse_cons]
    refine ⟨by rw [List.map_cons, same, contents, plainLines_break plain]; rfl, ?_⟩
    rw [List.forall_mem_cons]
    exact ⟨⟨by simpa using before, .inr (by rw [same])⟩, wholes⟩
  | case5 line c rest notBoth goes ih =>
    have other : c ≠ '\n' := fun same => goes (by simp [same])
    have moved : (c :: line).reverse ++ rest = line.reverse ++ c :: rest := by simp
    rw [moved] at ih
    exact ih (by simpa [plain] using other.symm) returns

theorem linesOf_content {text : String} (returns : '\r' ∉ text.toList) :
    (linesOf text).map (fun line => content line.toList) = plainLines text.toList ∧
      ∀ line ∈ linesOf text, Whole line.toList := by
  obtain ⟨contents, wholes⟩ := splitLines_content [] text.toList List.not_mem_nil returns
  rw [linesOf]
  refine ⟨by simpa [Function.comp_def] using contents, ?_⟩
  simpa using wholes

/-- A whole line is written on a line of its own. -/
theorem signedLine_toList {sign line : String} (whole : Whole line.toList) :
    (signedLine sign line).toList = sign.toList ++ content line.toList ++ ['\n'] := by
  rw [signedLine, String.toList_append, String.toList_append]
  obtain form | form := whole.form
  · have unended : endsLine line = false := by
      unfold endsLine
      split
      · rename_i c final
        have member := List.mem_of_getLast? final
        have noFeed : c ≠ '\n' := ne_of_mem_of_not_mem (form ▸ member) (content_plain line.toList)
        have noReturn : c ≠ '\r' := ne_of_mem_of_not_mem member whole.returns
        simp [noFeed, noReturn]
      · rfl
    simp [unended, ← form]
  · have closed : endsLine line = true := by
      rw [endsLine, form]
      simp
    rw [closed, if_pos rfl, String.toList_empty, List.append_nil, List.append_assoc, ← form]

end Ends

/-! ### Written scripts -/

/-- The sign of the lines of a block. -/
def Block.sign : Block → Char
  | .keep _ => ' '
  | .drop _ => '-'
  | .add _ => '+'

theorem Block.sign_mem (block : Block) : block.sign ∈ [' ', '-', '+'] := by
  cases block <;> simp [Block.sign]

/-- The lines of a written script, each with its sign in front. -/
def signedLines (script : List Block) : List (List Char) :=
  script.flatMap fun block => block.lines.map fun line => block.sign :: content line.toList

/-- The lines that are those of one side, without their signs: those with its sign and those with the sign of both. -/
def side (sign : Char) (lines : List (List Char)) : List (List Char) :=
  lines.filterMap fun line =>
    match line with
    | [] => none
    | c :: rest => if c = sign ∨ c = ' ' then some rest else none

section Scripts
variable {script : List Block} {old new : List String} {sign : Char}

theorem block_toList {block : Block} (whole : ∀ line ∈ block.lines, Whole line.toList) :
    block.render.toList =
      (block.lines.map fun line => block.sign :: content line.toList).flatMap (· ++ ['\n']) := by
  cases block <;>
  · rw [Block.render, String.toList_join, List.flatMap_map, List.flatMap_map]
    refine List.flatMap_congr fun line member => ?_
    rw [signedLine_toList (whole line member)]
    rfl

/-- The lines of a block are kept, dropped or added ones. -/
theorem mem_block_lines {block : Block} {line : String} (here : block ∈ script) (member : line ∈ block.lines) :
    line ∈ oldLines script ∨ line ∈ newLines script := by
  cases block with
  | add lines => exact .inr (List.mem_flatMap.mpr ⟨_, here, member⟩)
  | _ => exact .inl (List.mem_flatMap.mpr ⟨_, here, member⟩)

/-- The lines of a written script are its lines with their signs. -/
theorem written_lines (leads : Leads old new script) (oldWhole : ∀ line ∈ old, Whole line.toList)
    (newWhole : ∀ line ∈ new, Whole line.toList) :
    plainLines (String.join (script.map Block.render)).toList = signedLines script := by
  have written : (String.join (script.map Block.render)).toList = (signedLines script).flatMap (· ++ ['\n']) := by
    rw [String.toList_join, List.flatMap_map, signedLines, List.flatMap_assoc]
    refine List.flatMap_congr fun block here => block_toList fun line member => ?_
    obtain kept | added := mem_block_lines here member
    · exact oldWhole line (leads.starts ▸ kept)
    · exact newWhole line (leads.ends ▸ added)
  rw [written]
  apply plainLines_written
  intro line member
  obtain ⟨block, _, member⟩ := List.mem_flatMap.mp member
  obtain ⟨line, _, rfl⟩ := List.mem_map.mp member
  have sign : '\n' ≠ block.sign := (ne_of_mem_of_not_mem block.sign_mem (by decide)).symm
  exact List.not_mem_cons_of_ne_of_not_mem sign (content_plain _)

theorem side_map {lines : List String} {c : Char} :
    side sign (lines.map fun line => c :: content line.toList) =
      if c = sign ∨ c = ' ' then lines.map fun line => content line.toList else [] := by
  rw [side, List.filterMap_map]
  by_cases own : c = sign ∨ c = ' ' <;> simp [own]

theorem side_old (script : List Block) :
    side '-' (signedLines script) = (oldLines script).map fun line => content line.toList := by
  rw [side, signedLines, List.filterMap_flatMap, oldLines, List.map_flatMap]
  refine List.flatMap_congr fun block _ => side_map.trans ?_
  cases block <;> rfl

theorem side_new (script : List Block) :
    side '+' (signedLines script) = (newLines script).map fun line => content line.toList := by
  rw [side, signedLines, List.filterMap_flatMap, newLines, List.map_flatMap]
  refine List.flatMap_congr fun block _ => side_map.trans ?_
  cases block <;> rfl

end Scripts

/-! ### Reproduced texts -/

/-- What a written difference tells of the two texts. -/
structure Reproduces (expected deployed written : String) : Prop where
  /-- Every line has a sign in front. -/
  signed : ∀ line ∈ plainLines written.toList, ∃ sign ∈ [' ', '-', '+'], line.head? = some sign
  expectedLines : side '-' (plainLines written.toList) = plainLines expected.toList
  deployedLines : side '+' (plainLines written.toList) = plainLines deployed.toList
  /-- All of the expected text but a line feed that may lack at its end. -/
  expectedText : (side '-' (plainLines written.toList)).flatMap (· ++ ['\n']) = ended expected.toList
  /-- All of the deployed text but a line feed that may lack at its end. -/
  deployedText : (side '+' (plainLines written.toList)).flatMap (· ++ ['\n']) = ended deployed.toList

/-- Whatever script leads from the lines of one text to those of another, from what is written of its blocks in their
order both can be read back. -/
theorem written_reproduces {script : List Block} {expected deployed : String}
    (leads : Leads (linesOf expected) (linesOf deployed) script)
    (expectedReturns : '\r' ∉ expected.toList) (deployedReturns : '\r' ∉ deployed.toList) :
    Reproduces expected deployed (String.join (script.map Block.render)) := by
  obtain ⟨expectedLines, expectedWhole⟩ := linesOf_content expectedReturns
  obtain ⟨deployedLines, deployedWhole⟩ := linesOf_content deployedReturns
  have written := written_lines leads expectedWhole deployedWhole
  have old : side '-' (plainLines (String.join (script.map Block.render)).toList) = plainLines expected.toList := by
    rw [written, side_old, leads.starts, expectedLines]
  have new : side '+' (plainLines (String.join (script.map Block.render)).toList) = plainLines deployed.toList := by
    rw [written, side_new, leads.ends, deployedLines]
  refine ⟨?_, old, new, by rw [old, plainLines_joined], by rw [new, plainLines_joined]⟩
  rw [written]
  intro line member
  obtain ⟨block, _, member⟩ := List.mem_flatMap.mp member
  obtain ⟨line, _, rfl⟩ := List.mem_map.mp member
  exact ⟨block.sign, block.sign_mem, rfl⟩

/-- The difference of two texts without carriage returns is written so that the lines of both can be read from it, in
order, and with them the texts themselves up to a line feed at their ends; and so it would be with the changes of any
other script that leads from the lines of the one to those of the other. -/
theorem lineDiff_reproduces (expected deployed : String) (expectedReturns : '\r' ∉ expected.toList)
    (deployedReturns : '\r' ∉ deployed.toList) :
    Reproduces expected deployed (lineDiff expected deployed) ∧
      ∀ script, Leads (linesOf expected) (linesOf deployed) script →
        Reproduces expected deployed (String.join (script.map Block.render)) := by
  have leads := grouped_leads (compact_leads (linesOf expected) (linesOf deployed)) [] []
  exact ⟨written_reproduces leads expectedReturns deployedReturns,
    fun _ leads => written_reproduces leads expectedReturns deployedReturns⟩

/-- Lines that start with signs themselves, and a last line that only the deployed text ends. -/
theorem signs_reproduced : '\r' ∉ "a\n-b\n c".toList ∧ '\r' ∉ "a\n+b\n c\n".toList ∧
    lineDiff "a\n-b\n c" "a\n+b\n c\n" = " a\n--b\n- c\n++b\n+ c\n" ∧
    Reproduces "a\n-b\n c" "a\n+b\n c\n" (lineDiff "a\n-b\n c" "a\n+b\n c\n") :=
  ⟨by decide, by decide, by decide, (lineDiff_reproduces _ _ (by decide) (by decide)).1⟩

end SemanticLayer.LineDiff

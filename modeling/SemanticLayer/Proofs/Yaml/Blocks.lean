import SemanticLayer.Proofs.Yaml.Words

/-! Literal blocks are read back. The lines of a block stand at one column, which its header names
where the first line could not show it, and the header also says how many of the breaks at the end
belong to the text. -/
namespace SemanticLayer.Yaml

/-! ### Breaks at the end -/

/-- What has to happen to the breaks at the end of a block for its text to come back. -/
def chompingOf (cs : List Char) : Chomping :=
  match cs.reverse with
  | [] => .strip
  | [x] => if isBreak x then .keep else .strip
  | x :: y :: _ => if isBreak x then if isBreak y then .keep else .clip else .strip

/-- The mark of a way to end a block. -/
def Chomping.indicator : Chomping → List Char
  | .strip => ['-']
  | .clip => []
  | .keep => ['+']

/-- Whether a block has to name its column. -/
def hidesColumn (cs : List Char) : Bool := cs.head?.any fun x => x = ' ' || isBreak x

/-- The break that ends the last line of a block, unless the text has one there. -/
def closingBreak (cs : List Char) : List Char := if cs.getLast?.any isBreak then [] else ['\n']

section Chomping
variable {cs word breaks body : List Char} {x : Char}

theorem literalHeader_eq (cs : List Char) :
    literalHeader cs = (if hidesColumn cs then ['2'] else []) ++ (chompingOf cs).indicator := by
  unfold literalHeader chompingOf hidesColumn
  congr 1
  rcases cs.reverse with _ | ⟨x, _ | ⟨y, _⟩⟩
  · rfl
  · cases broken : isBreak x <;> simp [broken, Chomping.indicator]
  · cases last : isBreak x <;> cases before : isBreak y <;> simp [last, before, Chomping.indicator]

/-- What stands before the last line does not matter. -/
theorem chompingOf_append (nonempty : cs ≠ []) (resumes : ∀ x ∈ cs.head?, isBreak x = false)
    (before : List Char) : chompingOf (before ++ cs) = chompingOf cs := by
  unfold chompingOf
  rw [List.reverse_append]
  rcases reversed : cs.reverse with _ | ⟨x, _ | ⟨y, tail⟩⟩
  · exact absurd (List.reverse_eq_nil_iff.mp reversed) nonempty
  · obtain rfl : cs = [x] := by simpa using congrArg List.reverse reversed
    have noBreak := resumes x rfl
    cases before.reverse <;> simp [noBreak]
  · rfl

theorem chompingOf_line (nonempty : word ≠ []) (inside : ∀ x ∈ word, isBreak x = false) :
    chompingOf word = .strip := by
  obtain ⟨before, x, rfl⟩ := word.eq_nil_or_concat.resolve_left nonempty
  have noBreak := inside x (by simp)
  unfold chompingOf
  rw [List.concat_eq_append, List.reverse_concat]
  cases before.reverse <;> simp [noBreak]

/-- One break behind the last line is kept, and so are several. -/
theorem chompingOf_breaks (nonempty : word ≠ []) (inside : ∀ x ∈ word, isBreak x = false)
    (broken : ∀ y ∈ x :: breaks, isBreak y = true) :
    chompingOf (word ++ x :: breaks) = if breaks.isEmpty then .clip else .keep := by
  obtain ⟨before, z, rfl⟩ := word.eq_nil_or_concat.resolve_left nonempty
  have noBreak := inside z (by simp)
  have first := broken x List.mem_cons_self
  rcases breaks.eq_nil_or_concat with rfl | ⟨between, y, rfl⟩
  · simp [chompingOf, noBreak, first]
  · have last := broken y (by simp)
    rcases between.eq_nil_or_concat with rfl | ⟨others, w, rfl⟩
    · simp [chompingOf, first, last]
    · have another := broken w (by simp)
      simp [chompingOf, last, another]

theorem chompingOf_empty_lines (nonempty : breaks ≠ []) (broken : ∀ x ∈ breaks, isBreak x = true) :
    chompingOf breaks = .keep := by
  obtain ⟨before, x, rfl⟩ := breaks.eq_nil_or_concat.resolve_left nonempty
  have last := broken x (by simp)
  rcases before.eq_nil_or_concat with rfl | ⟨others, y, rfl⟩
  · simp [chompingOf, last]
  · have another := broken y (by simp)
    simp [chompingOf, last, another]

theorem closingBreak_append (nonempty : cs ≠ []) (before : List Char) :
    closingBreak (before ++ cs) = closingBreak cs := by
  rw [closingBreak, List.getLast?_append_of_ne_nil _ nonempty, closingBreak]

theorem closingBreak_line (nonempty : word ≠ []) (inside : ∀ x ∈ word, isBreak x = false) :
    closingBreak word = ['\n'] := by
  rw [closingBreak, List.getLast?_eq_some_getLast nonempty]
  simp [inside _ (List.getLast_mem nonempty)]

theorem closingBreak_breaks (nonempty : breaks ≠ []) (broken : ∀ x ∈ breaks, isBreak x = true) :
    closingBreak breaks = [] := by
  rw [closingBreak, List.getLast?_eq_some_getLast nonempty]
  simp [broken _ (List.getLast_mem nonempty)]

end Chomping

/-! ### Written lines -/

section Lines
variable {column : Nat} {cs word breaks : List Char}

theorem literal_line (column : Nat) (cs : List Char) (inside : ∀ x ∈ word, isBreak x = false) :
    literalChars column false (word ++ cs) = word ++ literalChars column false cs := by
  induction word with
  | nil => rfl
  | cons x word ih =>
    obtain ⟨noBreak, later⟩ := List.forall_mem_cons.mp inside
    simp [literalChars, noBreak, ih later]

theorem literal_empty_lines (broken : ∀ x ∈ breaks, isBreak x = true) :
    literalChars column true (breaks ++ cs) = breaks ++ literalChars column true cs := by
  induction breaks with
  | nil => rfl
  | cons x breaks ih =>
    obtain ⟨isBroken, later⟩ := List.forall_mem_cons.mp broken
    simp [literalChars, isBroken, ih later]

theorem literal_breaks (nonempty : breaks ≠ []) (broken : ∀ x ∈ breaks, isBreak x = true) :
    literalChars column false (breaks ++ cs) = breaks ++ literalChars column true cs := by
  obtain ⟨x, others, rfl⟩ := List.exists_cons_of_ne_nil nonempty
  obtain ⟨isBroken, later⟩ := List.forall_mem_cons.mp broken
  simp [literalChars, isBroken, literal_empty_lines later]

theorem literal_indented (nonempty : cs ≠ []) (resumes : ∀ x ∈ cs.head?, isBreak x = false) :
    literalChars column true cs = indentation column ++ literalChars column false cs := by
  obtain ⟨x, others, rfl⟩ := List.exists_cons_of_ne_nil nonempty
  simp [literalChars, resumes x rfl]

theorem literal_length (column : Nat) (broken : Bool) (cs : List Char) :
    cs.length ≤ (literalChars column broken cs).length := by
  induction cs generalizing broken with
  | nil => exact Nat.zero_le _
  | cons x cs ih =>
    have later := fun broken => ih broken
    simp only [literalChars]
    split
    · simpa using later true
    · have rest := later false
      simp only [List.length_append, List.length_cons]
      omega

/-- Every printable text is one of lines between breaks. -/
theorem words_of_breaks (printable : ∀ x ∈ cs, isPrintable x = true) :
    Words (isBreak · = false) BreakGap cs := by
  induction cs with
  | nil => exact .last fun _ member => absurd member List.not_mem_nil
  | cons x cs ih =>
    obtain ⟨shown, later⟩ := List.forall_mem_cons.mp printable
    cases broken : isBreak x with
    | false => exact words_cons broken (ih later)
    | true =>
      refine words_gap_cons ⟨by simp, by simp [shown, broken]⟩ (ih later) ?_
      rintro gap rest - ⟨nonempty, breaks⟩
      exact ⟨by simp, List.forall_mem_cons.mpr ⟨⟨shown, broken⟩, breaks⟩⟩

end Lines

/-! ### Reading -/

/-- What stands at a column is text: no break, and no gap unless the lines are known to start there. -/
def Resumes (known : Option Nat) (column : Nat) (rest : List Char) : Prop :=
  ∀ x ∈ rest.head?, isBreak x = false ∧ (known.all (column < ·) = true → isGap x = false)

section Reading
variable {text rest fuel : List Char} {column : Option Nat} {count : Nat} {m : Mark}

theorem indent_read (reaches : ∀ n ∈ column, m.column + count ≤ n)
    (stop : column.all (m.column + count < ·) = true → rest.head? ≠ some ' ') :
    blockBreaks.indent column (indentation count ++ rest) m = ⟨rest, m.forward count⟩ := by
  induction count generalizing m with
  | zero =>
    cases rest with
    | nil => rfl
    | cons x rest =>
      have notBoth : ¬(x = ' ' ∧ column.all (m.column < ·) = true) := by
        rintro ⟨rfl, left⟩
        exact stop left rfl
      simp only [indentation, List.replicate_zero, List.nil_append, blockBreaks.indent,
        forward_zero]
      rw [if_neg]
      simpa using notBoth
  | succ count ih =>
    have left : column.all (m.column < ·) = true := by
      cases column with
      | none => rfl
      | some n =>
        have right := reaches n rfl
        simp
        omega
    have further : m.next.column + count = m.column + (count + 1) := by
      simp only [Mark.next]
      omega
    have later := ih (m := m.next) (by rwa [further]) (by rwa [further])
    rw [indentation_succ, List.cons_append, blockBreaks.indent, left]
    simpa using later

/-- Text stands on the line, in its column: no line is empty. -/
theorem blockBreaks_stop (fuel : List Char) (reach : Nat) (atStart : m.column = 0)
    (reaches : ∀ n ∈ column, count ≤ n) (resumes : Resumes column count rest)
    (enough : count ≤ fuel.length) :
    ∃ after, blockBreaks column fuel reach ⟨indentation count ++ rest, m⟩ =
      .ok ([], max reach count, ⟨rest, after⟩) ∧ after.column = count := by
  have place : m.column + count = count := by omega
  refine ⟨m.forward count, ?_, place⟩
  have indented : blockBreaks.indent column (indentation count ++ rest) m =
      ⟨rest, m.forward count⟩ := by
    refine indent_read (by rwa [place]) fun left space => ?_
    rw [place] at left
    cases (resumes ' ' space).2 left
  cases fuel with
  | nil =>
    obtain rfl : count = 0 := Nat.le_zero.mp enough
    simp [blockBreaks, indentation]
  | cons _ fuel =>
    cases rest with
    | nil =>
      simp only [blockBreaks, indented, forward_column, place, Cursor.at?_nil, Bool.false_and,
        Bool.false_eq_true, ↓reduceIte]
    | cons x rest =>
      obtain ⟨noBreak, noGap⟩ := resumes x rfl
      have noTab : (decide (x = '\t') && column.all (count < ·)) = false := by
        rw [Bool.and_eq_false_iff, decide_eq_false_iff_not]
        by_cases left : column.all (count < ·) = true
        · refine .inl ?_
          rintro rfl
          cases noGap left
        · exact .inr (Bool.eq_false_of_not_eq_true left)
      simp only [blockBreaks, indented, forward_column, place, Cursor.at?_cons, noTab, noBreak,
        Bool.false_eq_true, ↓reduceIte]

/-- An empty line is its break. -/
theorem blockBreaks_break (y : Char) (fuel text : List Char) (reach : Nat) {x : Char}
    (shown : isPrintable x = true) (broken : isBreak x = true) (atStart : m.column = 0)
    {more : List Char} {far : Nat} {next : Cursor}
    (read : blockBreaks column fuel reach ⟨text, m.nextLine 1⟩ = .ok (more, far, next)) :
    blockBreaks column (y :: fuel) reach ⟨x :: text, m⟩ = .ok (x :: more, far, next) := by
  have notSpace : x ≠ ' ' := by
    rintro rfl
    cases broken
  have notTab : x ≠ '\t' := by
    rintro rfl
    cases broken
  have stays : blockBreaks.indent column (x :: text) m = ⟨x :: text, m⟩ := by
    simp [blockBreaks.indent, notSpace]
  simp [blockBreaks, stays, notTab, broken, lineBreak_printable shown broken, read, atStart, bind,
    Except.bind, pure, Except.pure]

/-- Behind a break, empty lines are read as breaks up to the line on which text stands. -/
theorem blockBreaks_read (fuel breaks : List Char) (reach : Nat) (m : Mark)
    (printable : ∀ x ∈ breaks, isPrintable x = true ∧ isBreak x = true)
    (atStart : m.column = 0) (reaches : ∀ n ∈ column, count ≤ n) (resumes : Resumes column count rest)
    (enough : breaks.length + count ≤ fuel.length) :
    ∃ after, blockBreaks column fuel reach ⟨breaks ++ (indentation count ++ rest), m⟩ =
      .ok (breaks, max reach count, ⟨rest, after⟩) ∧ after.column = count := by
  induction breaks generalizing fuel m with
  | nil => exact blockBreaks_stop fuel reach atStart reaches resumes (by simpa using enough)
  | cons x breaks ih =>
    cases fuel with
    | nil => simp at enough
    | cons y fuel =>
      obtain ⟨⟨shown, broken⟩, later⟩ := List.forall_mem_cons.mp printable
      obtain ⟨after, read, place⟩ := ih fuel (m.nextLine 1) later rfl
        (by simp only [List.length_cons] at enough; omega)
      exact ⟨after, blockBreaks_break y fuel _ reach shown broken atStart read, place⟩

end Reading

section Block
variable {chomping : Chomping} {column depth : Nat} {cs rest fuel lead others : List Char}
  {spaced : Bool} {m : Mark}

/-- A token left of the lines of a block, or at the end of the text, is no part of them. -/
theorem ends_block (depth : Nat) (opens : Opens rest) (given : Option Nat) : Resumes given depth rest := by
  intro x first
  have quiet := (opens x first).1
  rw [isSpacing, Bool.or_eq_false_iff] at quiet
  exact ⟨quiet.2, fun _ => quiet.1⟩

/-- One line of a block and the breaks behind it. -/
theorem blockLines_line (chomping : Chomping) (lead others : List Char) (y : Char) (spaced : Bool)
    {word text empty more : List Char} {x : Char} {reach : Nat} {next last : Cursor}
    (inColumn : m.column = column) (inside : ∀ x ∈ word, isBreak x = false)
    (shown : isPrintable x = true) (broken : isBreak x = true)
    (between : blockBreaks (some column) text 0 ⟨text, (m.forward word.length).nextLine 1⟩ =
      .ok (empty, reach, next))
    (read : blockLines true chomping column fuel [x] empty
      (Cursor.at? isGap ⟨word ++ x :: text, m⟩) next = .ok (more, last)) :
    blockLines true chomping column (y :: fuel) lead others spaced ⟨word ++ x :: text, m⟩ =
      .ok (lead ++ others ++ (word ++ more), last) := by
  have line : Cursor.span (!isBreak ·) (word ++ x :: text) m =
      (word, ⟨x :: text, m.forward word.length⟩) :=
    Cursor.span_append (by simpa using inside) (by simp [broken]) m
  simp [blockLines, inColumn, line, lineBreak_printable shown broken, between, read, bind,
    Except.bind, pure, Except.pure]

/-- The block ends where a line starts left of it. -/
theorem blockLines_end (chomping : Chomping) (fuel lead others : List Char) (spaced : Bool)
    (left : m.column < column) :
    blockLines true chomping column fuel lead others spaced ⟨rest, m⟩ =
      .ok (match fuel with
        | [] => []
        | _ :: _ => match chomping with
          | .strip => []
          | .clip => lead
          | .keep => lead ++ others, ⟨rest, m⟩) := by
  have notThere : m.column ≠ column := by omega
  cases fuel <;> cases chomping <;> simp [blockLines, notThere]

/-- The last line of a block and the breaks behind it, of which the chomping keeps some. -/
theorem blockLines_last (chomping : Chomping) (fuel lead others : List Char) (y z : Char) (spaced : Bool)
    {word empty : List Char} {x : Char} (inColumn : m.column = column)
    (inside : ∀ x ∈ word, isBreak x = false)
    (breaks : ∀ y ∈ x :: empty, isPrintable y = true ∧ isBreak y = true) (opens : Opens rest)
    (left : depth < column) :
    ∃ after, blockLines true chomping column (y :: z :: fuel) lead others spaced
      ⟨word ++ x :: (empty ++ (indentation depth ++ rest)), m⟩ =
        .ok (lead ++ others ++ (word ++ match chomping with
          | .strip => []
          | .clip => [x]
          | .keep => x :: empty), ⟨rest, after⟩) ∧ after.column = depth := by
  obtain ⟨⟨shown, broken⟩, later⟩ := List.forall_mem_cons.mp breaks
  obtain ⟨after, between, place⟩ := blockBreaks_read (empty ++ (indentation depth ++ rest)) empty 0
    ((m.forward word.length).nextLine 1) later rfl (by simpa using left.le)
    (ends_block depth opens (some column)) (by simp)
  refine ⟨after, ?_, place⟩
  exact blockLines_line chomping lead others y spaced inColumn inside shown broken between
    (blockLines_end chomping (z :: fuel) _ _ _ (place ▸ left))

/-- A line of a block, the breaks behind it and the lines from `text` on, which are read as `more`. -/
theorem blockLines_further (chomping : Chomping) (lead others : List Char) (y : Char) (spaced : Bool)
    {word empty text more : List Char} {x : Char} (inColumn : m.column = column)
    (inside : ∀ x ∈ word, isBreak x = false)
    (breaks : ∀ y ∈ x :: empty, isPrintable y = true ∧ isBreak y = true)
    (resumes : ∀ x ∈ text.head?, isBreak x = false)
    (read : ∀ spaced next, next.column = column → ∃ after,
      blockLines true chomping column fuel [x] empty spaced ⟨text, next⟩ = .ok (more, ⟨rest, after⟩) ∧
        after.column = depth) :
    ∃ after, blockLines true chomping column (y :: fuel) lead others spaced
      ⟨word ++ x :: (empty ++ (indentation column ++ text)), m⟩ =
        .ok (lead ++ others ++ (word ++ more), ⟨rest, after⟩) ∧ after.column = depth := by
  obtain ⟨⟨shown, broken⟩, later⟩ := List.forall_mem_cons.mp breaks
  have reaches : ∀ n ∈ some column, column ≤ n := by simp
  have resumed : Resumes (some column) column text := fun x first => ⟨resumes x first, by simp⟩
  obtain ⟨next, between, nextPlace⟩ := blockBreaks_read (empty ++ (indentation column ++ text)) empty 0
    ((m.forward word.length).nextLine 1) later rfl reaches resumed (by simp)
  obtain ⟨after, lines, place⟩ := read _ next nextPlace
  exact ⟨after, blockLines_line chomping lead others y spaced inColumn inside shown broken between lines,
    place⟩

theorem blockLines_read (fuel lead others : List Char) (spaced : Bool) (m : Mark)
    (words : Words (isBreak · = false) BreakGap cs) (nonempty : cs ≠ [])
    (resumes : ∀ x ∈ cs.head?, isBreak x = false) (opens : Opens rest) (left : depth < column)
    (inColumn : m.column = column) (enough : cs.length < fuel.length) :
    ∃ after, blockLines true (chompingOf cs) column fuel lead others spaced
      ⟨literalChars column false cs ++ (closingBreak cs ++ (indentation depth ++ rest)), m⟩ =
        .ok (lead ++ others ++ cs, ⟨rest, after⟩) ∧ after.column = depth := by
  induction words generalizing fuel lead others spaced m with
  | @last word inside =>
    obtain _ | ⟨y, _ | ⟨z, fuel⟩⟩ := fuel
    · simp at enough
    · simp [nonempty] at enough
    have feed : ∀ y ∈ ['\n'], isPrintable y = true ∧ isBreak y = true := by
      simp [isPrintable, isBreak]
    have written := literal_line column [] inside
    simp only [List.append_nil, literalChars] at written
    rw [closingBreak_line nonempty inside, chompingOf_line nonempty inside, written]
    simpa using blockLines_last .strip fuel lead others y z spaced inColumn inside feed opens left
  | @more word gap tail inside isGap resumesTail tailWords ih =>
    obtain ⟨gapNonempty, breaks⟩ := isGap
    obtain ⟨x, empty, rfl⟩ := List.exists_cons_of_ne_nil gapNonempty
    have allBroken : ∀ y ∈ x :: empty, isBreak y = true := fun y member => (breaks y member).2
    have wordNonempty : word ≠ [] := by
      rintro rfl
      exact Bool.noConfusion ((allBroken x List.mem_cons_self).symm.trans (resumes x rfl))
    have written := literal_line column (x :: empty ++ tail) inside
    rw [literal_breaks (by simp) allBroken] at written
    by_cases tailEmpty : tail = []
    · obtain _ | ⟨y, _ | ⟨z, fuel⟩⟩ := fuel
      · simp at enough
      · simp at enough
      subst tailEmpty
      have closed : closingBreak (word ++ x :: empty) = [] := by
        rw [closingBreak_append (by simp), closingBreak_breaks (by simp) allBroken]
      have line := blockLines_last (if empty.isEmpty then .clip else .keep) fuel lead others y z spaced
        inColumn inside breaks opens left
      rw [written, List.append_nil, closed, chompingOf_breaks wordNonempty inside allBroken]
      cases empty <;> simpa [literalChars] using line
    · obtain _ | ⟨y, fuel⟩ := fuel
      · simp at enough
      have shown : ∀ z ∈ (literalChars column false tail ++
          (closingBreak tail ++ (indentation depth ++ rest))).head?, isBreak z = false := by
        obtain ⟨z, others, rfl⟩ := List.exists_cons_of_ne_nil tailEmpty
        simp [literalChars, resumesTail z rfl]
      have line := blockLines_further (chompingOf tail) lead others y spaced inColumn inside breaks shown
        fun spaced next place => ih fuel [x] empty spaced next tailEmpty resumesTail place
          (by simp at enough; omega)
      rw [← List.append_assoc word, closingBreak_append tailEmpty, chompingOf_append tailEmpty resumesTail,
        List.append_assoc word, written, literal_indented tailEmpty resumesTail]
      simpa using line

/-- The header says which column the lines have, if need be, and how the block ends. -/
theorem blockHeader_read (cs text : List Char) (m : Mark) :
    ∃ after, blockHeader ⟨literalHeader cs ++ '\n' :: text, m⟩ =
      .ok (chompingOf cs, if hidesColumn cs then some 2 else none, ⟨'\n' :: text, after⟩) := by
  rw [literalHeader_eq]
  cases hidesColumn cs <;> cases chompingOf cs <;>
    simp [blockHeader, Chomping.indicator, Cursor.step, Except.map]

/-- The empty lines before the first line of a text. -/
theorem empty_lines_first (printable : ∀ x ∈ cs, isPrintable x = true) :
    ∃ breaks body, cs = breaks ++ body ∧ (∀ x ∈ breaks, isPrintable x = true ∧ isBreak x = true) ∧
      (∀ x ∈ body.head?, isBreak x = false) ∧ ∀ x ∈ body, isPrintable x = true := by
  refine ⟨cs.takeWhile isBreak, cs.dropWhile isBreak, List.takeWhile_append_dropWhile.symm, ?_, ?_, ?_⟩
  · intro x member
    exact ⟨printable x (List.takeWhile_subset isBreak member), List.mem_takeWhile_imp member⟩
  · intro x first
    have stopped := List.head?_dropWhile_not isBreak cs
    rw [first] at stopped
    simpa using stopped
  · intro x member
    exact printable x (List.dropWhile_subset isBreak member)

/-- A text of breaks alone: the block ends with the empty lines in front of its first line. -/
theorem empty_text_read (fuel : List Char) (y : Char) (nonempty : cs ≠ [])
    (breaks : ∀ x ∈ cs, isPrintable x = true ∧ isBreak x = true) (opens : Opens rest)
    (left : depth < column) (atStart : m.column = 0) (enough : cs.length + depth ≤ fuel.length) :
    ∃ reach next, blockBreaks (some column) fuel 0 ⟨cs ++ (indentation depth ++ rest), m⟩ =
        .ok (cs, reach, next) ∧
      ∃ after, blockLines true (chompingOf cs) column (y :: lead) [] cs false next =
        .ok (cs, ⟨rest, after⟩) ∧ after.column = depth := by
  obtain ⟨after, read, place⟩ := blockBreaks_read fuel cs 0 m breaks atStart (by simpa using left.le)
    (ends_block depth opens (some column)) enough
  refine ⟨_, _, read, after, ?_, place⟩
  rw [blockLines_end _ _ _ _ _ (place ▸ left), chompingOf_empty_lines nonempty fun x member =>
    (breaks x member).2]
  rfl

/-- A first line that shows its column does not start with a gap. -/
theorem shown_no_gap {breaks body : List Char} {x : Char} (printable : isPrintable x = true)
    (broken : ∀ x ∈ breaks, isBreak x = true) (shows : hidesColumn (breaks ++ x :: body) = false) :
    isGap x = false := by
  cases breaks with
  | cons y breaks => simp [hidesColumn, broken y List.mem_cons_self] at shows
  | nil =>
    refine Bool.eq_false_of_not_eq_true fun gap => ?_
    obtain rfl := printable_gap printable gap
    simp [hidesColumn] at shows

/-- The lines of a block, of which the column is known or can be seen at the first one. -/
theorem block_text_read {given : Option Nat} (printable : ∀ x ∈ cs, isPrintable x = true)
    (nonempty : cs ≠ []) (opens : Opens rest) (left : depth < column)
    (known : given = some column ∨ given = none ∧ hidesColumn cs = false) (atStart : m.column = 0)
    {text : List Char} (written : text =
      literalChars column true cs ++ (closingBreak cs ++ (indentation depth ++ rest))) :
    ∃ empty reach next, blockBreaks given ('\n' :: text) 0 ⟨text, m⟩ = .ok (empty, reach, next) ∧
      (given = none → reach = column) ∧
      ∃ after, blockLines true (chompingOf cs) column ('\n' :: text) [] empty false next =
        .ok (cs, ⟨rest, after⟩) ∧ after.column = depth := by
  have enough : cs.length < ('\n' :: text).length := by
    have length := literal_length column true cs
    simp only [written, List.length_cons, List.length_append]
    omega
  obtain ⟨breaks, body, rfl, empty, resumes, bodyPrintable⟩ := empty_lines_first printable
  have broken : ∀ x ∈ breaks, isBreak x = true := fun x member => (empty x member).2
  rw [literal_empty_lines broken] at written
  cases body with
  | nil =>
    rw [List.append_nil] at nonempty known written ⊢
    obtain rfl : given = some column := by
      refine known.resolve_right fun ⟨_, shows⟩ => ?_
      obtain ⟨x, others, rfl⟩ := List.exists_cons_of_ne_nil nonempty
      simp [hidesColumn, broken x List.mem_cons_self] at shows
    rw [closingBreak_breaks nonempty broken, literalChars, List.nil_append, List.append_nil] at written
    obtain ⟨reach, next, read, lines⟩ := empty_text_read (m := m) ('\n' :: text) '\n' nonempty empty opens
      left atStart (by simp [written]; omega)
    rw [← written] at read
    exact ⟨_, reach, next, read, by simp, lines⟩
  | cons x body =>
    have noBreak := resumes x rfl
    rw [literal_indented (by simp) resumes, closingBreak_append (by simp)] at written
    simp only [List.append_assoc] at written
    have shown : Resumes given column (literalChars column false (x :: body) ++
        (closingBreak (x :: body) ++ (indentation depth ++ rest))) := by
      have inPlace : given.all (column < ·) = true → isGap x = false := by
        rcases known with rfl | ⟨-, shows⟩
        · simp
        · exact fun _ => shown_no_gap (bodyPrintable x List.mem_cons_self) broken shows
      simpa [Resumes, literalChars, noBreak] using inPlace
    have reaches : ∀ n ∈ given, column ≤ n := by
      rcases known with rfl | ⟨rfl, _⟩ <;> simp
    obtain ⟨next, read, place⟩ := blockBreaks_read ('\n' :: text) breaks 0 m empty atStart reaches
      shown (by simp [written]; omega)
    obtain ⟨after, lines, afterPlace⟩ := blockLines_read ('\n' :: text) [] breaks false next
      (words_of_breaks bodyPrintable) (by simp) resumes opens left place (by simp at enough ⊢; omega)
    rw [← written] at read
    refine ⟨breaks, max 0 column, _, read, fun _ => Nat.zero_max column, after, ?_, afterPlace⟩
    rw [chompingOf_append (by simp) resumes]
    exact lines

theorem readBlock_literal {parent : Nat} (printable : ∀ x ∈ cs, isPrintable x = true)
    (nonempty : cs ≠ []) (opens : Opens rest) (left : depth ≤ parent) (m : Mark) :
    ∃ after, readBlock true parent ⟨'|' :: (literalHeader cs ++ '\n' ::
      (literalChars (parent + 2) true cs ++ (closingBreak cs ++ (indentation depth ++ rest)))), m⟩ =
        .ok (cs, ⟨rest, after⟩) ∧ after.column = depth := by
  generalize written : literalChars (parent + 2) true cs ++
    (closingBreak cs ++ (indentation depth ++ rest)) = text
  obtain ⟨behind, header⟩ := blockHeader_read cs text m.next
  have known : (if hidesColumn cs then some 2 else none).map (parent + ·) = some (parent + 2) ∨
      (if hidesColumn cs then some 2 else none).map (parent + ·) = none ∧ hidesColumn cs = false := by
    cases hidesColumn cs <;> simp
  obtain ⟨empty, reach, next, breaks, seen, after, lines, place⟩ := block_text_read
    (m := behind.nextLine 1) printable nonempty opens (by omega) known rfl written.symm
  refine ⟨after, ?_, place⟩
  have noGap : Cursor.skipWhile isGap ⟨'\n' :: text, behind⟩ = ⟨'\n' :: text, behind⟩ :=
    Cursor.skipWhile_none rfl behind
  have feed : isBreak '\n' = true := rfl
  cases hides : hidesColumn cs with
  | true =>
    simp only [hides, ↓reduceIte, Option.map_some] at header breaks
    simp [readBlock, Cursor.step, header, noGap, feed, lineBreak_printable (x := '\n') rfl rfl, breaks,
      lines, bind, Except.bind]
  | false =>
    simp only [hides, Bool.false_eq_true, ↓reduceIte, Option.map_none] at header breaks seen
    have column : max reach (parent + 1) = parent + 2 := by
      have reached := seen trivial
      omega
    simp [readBlock, Cursor.step, header, noGap, feed, lineBreak_printable (x := '\n') rfl rfl, breaks,
      lines, column, bind, Except.bind]

end Block

end SemanticLayer.Yaml

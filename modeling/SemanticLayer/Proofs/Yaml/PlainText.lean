import SemanticLayer.Proofs.Yaml.Words

/-! Plain scalars are read back. A plain scalar has no marks of its own, so it ends where the text
could go on as something else: at the colon of a key, or where a line starts left of it. -/
namespace SemanticLayer.Yaml

/-- No colon that would make a key of the text before it. -/
def NoKey (cs : List Char) : Prop := ∀ before rest, cs = before ++ ':' :: rest → atSpacing rest = false

/-- No number sign that would start a comment. -/
def NoComment (cs : List Char) : Prop := ∀ before rest, cs ≠ before ++ ' ' :: '#' :: rest

/-- A line that reads as it is where a plain scalar goes on. -/
structure PlainText (cs : List Char) : Prop where
  nonempty : cs ≠ []
  printable : ∀ x ∈ cs, isPrintable x = true
  oneLine : ∀ x ∈ cs, isBreak x = false
  first : ∀ x ∈ cs.head?, x ≠ ' ' ∧ x ≠ '#'
  last : cs.getLast? ≠ some ' '
  noKey : NoKey cs
  noComment : NoComment cs

section PlainText
variable {cs word rest : List Char} {m : Mark}

theorem inner_quiet {spaced : Bool} (quiet : innerIndicator spaced cs = false) :
    NoKey cs ∧ NoComment cs ∧ (spaced = true → cs.head? ≠ some '#') := by
  induction cs generalizing spaced with
  | nil => exact ⟨fun before _ eq => by simp at eq, fun before _ eq => by simp at eq, by simp⟩
  | cons x cs ih =>
    simp only [innerIndicator, Bool.or_eq_false_iff, Bool.and_eq_false_iff, decide_eq_false_iff_not]
      at quiet
    obtain ⟨⟨colon, sign⟩, later⟩ := quiet
    obtain ⟨noKey, noComment, notSign⟩ := ih later
    refine ⟨?_, ?_, ?_⟩
    · intro before rest eq
      cases before with
      | nil =>
        obtain ⟨rfl, rfl⟩ := List.cons.inj eq
        simpa using colon
      | cons y before => exact noKey before rest (List.cons.inj eq).2
    · intro before rest eq
      cases before with
      | nil =>
        obtain ⟨rfl, rfl⟩ := List.cons.inj eq
        exact notSign rfl rfl
      | cons y before => exact noComment before rest (List.cons.inj eq).2
    · intro isSpaced first
      simp_all

/-- The writer's test leaves just such texts plain, and only if no other token starts like them. -/
theorem plain_of_allowed (allowed : plainAllowed cs = true) (nonempty : cs ≠ []) : PlainText cs ∧
    ∃ x tail, cs = x :: tail ∧ isOpeningIndicator x = false ∧
      (x = '?' ∨ x = ':' ∨ x = '-' → atSpacing tail = false) := by
  obtain ⟨x, tail, rfl⟩ := List.exists_cons_of_ne_nil nonempty
  simp only [plainAllowed, Bool.and_eq_true, Bool.not_eq_true', List.all_eq_true, atEitherEnd,
    Bool.or_eq_false_iff, List.any_eq_false] at allowed
  obtain ⟨⟨⟨printable, oneLine⟩, notFirst, notLast⟩, noIndicator⟩ := allowed
  simp only [hasIndicator, Bool.or_eq_false_iff, Bool.and_eq_false_iff] at noIndicator
  obtain ⟨_, ⟨opening, leading⟩, inner⟩ := noIndicator
  obtain ⟨noKey, noComment, notSign⟩ := inner_quiet inner
  have starts : x = '?' ∨ x = ':' ∨ x = '-' → atSpacing tail = false := by
    rintro (rfl | rfl | rfl) <;> exact leading.resolve_left (by decide)
  refine ⟨⟨nonempty, printable, fun y member => Bool.eq_false_of_not_eq_true (oneLine y member),
    ?_, ?_, ?_, ?_⟩, x, tail, rfl, opening, starts⟩
  · intro y first
    obtain rfl : x = y := by simpa using first
    refine ⟨by simpa using notFirst, ?_⟩
    rintro rfl
    exact Bool.noConfusion opening
  · intro space
    simp [space] at notLast
  · intro before rest eq
    cases before with
    | nil =>
      obtain ⟨rfl, rfl⟩ := List.cons.inj eq
      exact starts (.inr (.inl rfl))
    | cons y before => exact noKey before rest (List.cons.inj eq).2
  · intro before rest eq
    cases before with
    | nil =>
      obtain ⟨rfl, rfl⟩ := List.cons.inj eq
      exact notSign rfl rfl
    | cons y before => exact noComment before rest (List.cons.inj eq).2

theorem plain_opens (plain : PlainText cs) (text : List Char) : Opens (cs ++ text) := by
  obtain ⟨x, tail, rfl⟩ := List.exists_cons_of_ne_nil plain.nonempty
  intro y first
  obtain rfl : x = y := by simpa using first
  obtain ⟨notSpace, notSign⟩ := plain.first x rfl
  exact ⟨printable_spacing (plain.printable x List.mem_cons_self) (plain.oneLine x List.mem_cons_self)
    notSpace, notSign⟩

/-- A word of a plain scalar ends at white space, or at the colon behind a key. -/
theorem plainWord_read (inside : ∀ x ∈ word, isSpacing x = false)
    (noKey : ∀ before others, word = before ++ ':' :: others → atSpacing (others ++ rest) = false)
    (stop : rest.head?.any isSpacing = true ∨ ∃ tail, rest = ':' :: tail ∧ atSpacing tail = true) :
    plainWord false (word ++ rest) m = .ok (word, ⟨rest, m.forward word.length⟩) := by
  induction word generalizing m with
  | nil =>
    obtain spacing | ⟨tail, rfl, spacing⟩ := stop
    · cases rest with
      | nil => cases spacing
      | cons x rest =>
        have isSpace : isSpacing x = true := spacing
        simp [plainWord, isSpace]
    · have noSpace : isSpacing ':' = false := rfl
      simp [plainWord, spacing, noSpace]
  | cons x word ih =>
    obtain ⟨inWord, later⟩ := List.forall_mem_cons.mp inside
    have tail := ih (m := m.next) later fun before others eq =>
      noKey (x :: before) others (congrArg (x :: ·) eq)
    have notColon : x = ':' → atSpacing (word ++ rest) = false := by
      rintro rfl
      exact noKey [] word rfl
    by_cases colon : x = ':'
    · simp [plainWord, inWord, notColon colon, tail]
    · simp [plainWord, inWord, colon, tail]

/-! ### Names of fields -/

/-- The characters of which the names of fields are made. -/
def isNameChar (x : Char) : Bool := x.isLower || x = '_'

section NameChar
variable {x y : Char}

theorem nameChar_ne (name : isNameChar x = true) (other : isNameChar y = false) : x ≠ y := by
  rintro rfl
  exact Bool.noConfusion (name.symm.trans other)

theorem nameChar_code (name : isNameChar x = true) : 95 ≤ x.toNat ∧ x.toNat ≤ 122 := by
  rw [isNameChar, Bool.or_eq_true, decide_eq_true_eq] at name
  rcases name with lower | rfl
  · simp only [Char.isLower, Bool.and_eq_true, decide_eq_true_eq, UInt32.le_iff_toNat_le,
      ge_iff_le] at lower
    have codes : 97 ≤ x.toNat ∧ x.toNat ≤ 122 := lower
    omega
  · decide

theorem nameChar_printable (name : isNameChar x = true) : isPrintable x = true := by
  have code := nameChar_code name
  simp only [isPrintable, Bool.or_eq_true, Bool.and_eq_true, decide_eq_true_eq]
  omega

theorem nameChar_spacing (name : isNameChar x = true) : isSpacing x = false := by
  have code := nameChar_code name
  have noBreak : isBreak x = false := by
    simp only [isBreak, Bool.or_eq_false_iff, decide_eq_false_iff_not]
    exact ⟨⟨⟨⟨nameChar_ne name rfl, nameChar_ne name rfl⟩, by omega⟩, by omega⟩, by omega⟩
  exact printable_spacing (nameChar_printable name) noBreak (nameChar_ne name rfl)

end NameChar

section Loop
variable {fuel more : List Char} {gap behind : Gap} {indent : Nat} {broken : Bool} {y : Char}
  {c middle last stop : Cursor}

/-- The scalar ends behind a word that no white space follows. -/
theorem plainWords_stop (inDocument : ¬(c.mark.column = 0 ∧ atDocumentMarker c.rest = true))
    (notSign : c.at? (· = '#') = false) (read : plainWord false c.rest c.mark = .ok (word, middle))
    (nonempty : word ≠ []) (noSpacing : middle.at? isSpacing = false) :
    plainWords false indent (y :: fuel) gap c = .ok (gap.folded ++ word, false, middle) := by
  simp [plainWords, inDocument, notSign, read, nonempty, noSpacing, bind, Except.bind, pure,
    Except.pure]

/-- The scalar ends behind a gap from which the text goes on left of it. -/
theorem plainWords_end (inDocument : ¬(c.mark.column = 0 ∧ atDocumentMarker c.rest = true))
    (notSign : c.at? (· = '#') = false) (read : plainWord false c.rest c.mark = .ok (word, middle))
    (nonempty : word ≠ []) (spacing : middle.at? isSpacing = true)
    (between : readGap (some indent) middle.rest (.spaces []) middle = .ok (behind, last))
    (left : last.mark.column < indent) :
    plainWords false indent (y :: fuel) gap c = .ok (gap.folded ++ word, behind.isBroken, last) := by
  simp [plainWords, inDocument, notSign, read, nonempty, spacing, between, left, bind, Except.bind,
    pure, Except.pure]

/-- The scalar goes on behind a gap. -/
theorem plainWords_more (inDocument : ¬(c.mark.column = 0 ∧ atDocumentMarker c.rest = true))
    (notSign : c.at? (· = '#') = false) (read : plainWord false c.rest c.mark = .ok (word, middle))
    (nonempty : word ≠ []) (spacing : middle.at? isSpacing = true)
    (between : readGap (some indent) middle.rest (.spaces []) middle = .ok (behind, last))
    (right : indent ≤ last.mark.column)
    (others : plainWords false indent fuel behind last = .ok (more, broken, stop)) :
    plainWords false indent (y :: fuel) gap c = .ok (gap.folded ++ word ++ more, broken, stop) := by
  have notLeft : ¬last.mark.column < indent := by omega
  simp [plainWords, inDocument, notSign, read, nonempty, spacing, between, notLeft, others, bind,
    Except.bind, pure, Except.pure]

end Loop

/-- A colon that starts no key within the text starts none within a word of it. -/
private theorem no_key_in_word {tail : List Char} (noKey : NoKey (word ++ tail))
    (ends : atSpacing tail = true) (text : List Char) :
    ∀ before others, word = before ++ ':' :: others → atSpacing (others ++ text) = false := by
  rintro before others rfl
  have quiet := noKey before (others ++ tail) (by simp)
  cases others with
  | nil => exact absurd (quiet.symm.trans ends) Bool.false_ne_true
  | cons x others => exact quiet

/-- Behind a gap within a line it goes on in the same way. -/
private theorem plain_behind {count : Nat}
    (plain : PlainText (word ++ (indentation (count + 1) ++ cs)))
    (resumes : ∀ x ∈ cs.head?, x ≠ ' ') : PlainText cs := by
  have split (before others : List Char) (eq : cs = before ++ others) :
      word ++ (indentation (count + 1) ++ cs) = (word ++ indentation (count + 1) ++ before) ++ others := by
    rw [eq]
    simp only [List.append_assoc]
  have ends : word ++ (indentation (count + 1) ++ cs) = (word ++ indentation count) ++ ' ' :: cs := by
    simp [indentation, List.replicate_succ']
  have nonempty : cs ≠ [] := by
    rintro rfl
    exact plain.last (by rw [ends]; simp)
  refine ⟨nonempty, fun x member => plain.printable x (by simp [member]),
    fun x member => plain.oneLine x (by simp [member]), fun x first => ⟨resumes x first, ?_⟩, ?_, ?_, ?_⟩
  · rintro rfl
    obtain ⟨tail, rfl⟩ := List.head?_eq_some_iff.mp first
    exact plain.noComment _ _ ends
  · intro space
    exact plain.last (by rw [List.getLast?_append_of_ne_nil _ (by simp [nonempty]),
      List.getLast?_append_of_ne_nil _ nonempty, space])
  · intro before others eq
    exact plain.noKey _ others (split before _ eq)
  · intro before others eq
    exact plain.noComment _ others (split before _ eq)

private theorem plain_not_sign (plain : PlainText cs) (text : List Char) (m : Mark) :
    Cursor.at? (· = '#') ⟨cs ++ text, m⟩ = false := by
  obtain ⟨x, tail, rfl⟩ := List.exists_cons_of_ne_nil plain.nonempty
  have ne := (plain.first x rfl).2
  simp [ne]

private theorem plain_in_word (plain : PlainText (word ++ cs)) (inside : ∀ x ∈ word, x ≠ ' ') :
    ∀ x ∈ word, isSpacing x = false := by
  intro x member
  have inText := List.mem_append_left cs member
  exact printable_spacing (plain.printable x inText) (plain.oneLine x inText) (inside x member)

/-- A word of the text is read up to the white space behind it. -/
private theorem plain_word_read {text : List Char} (plain : PlainText (word ++ cs))
    (inside : ∀ x ∈ word, x ≠ ' ') (ends : atSpacing cs = true) (spacing : text.head?.any isSpacing = true)
    (m : Mark) : plainWord false (word ++ text) m = .ok (word, ⟨text, m.forward word.length⟩) :=
  plainWord_read (plain_in_word plain inside) (no_key_in_word plain.noKey ends text) (.inl spacing)

private theorem plain_word_nonempty {count : Nat}
    (plain : PlainText (word ++ (indentation (count + 1) ++ cs))) : word ≠ [] := by
  rintro rfl
  exact (plain.first ' ' rfl).1 rfl

section Words
variable {fuel : List Char} {gap : Gap} {indent column : Nat}

private theorem not_marker (right : indent ≤ m.column) (left : column < indent) (text : List Char) :
    ¬(m.column = 0 ∧ atDocumentMarker text = true) := by omega

/-- The last word of the text and the end of its line. -/
private theorem plain_last_read (y : Char) (plain : PlainText word) (inside : ∀ x ∈ word, x ≠ ' ')
    (opens : Opens rest) (left : column < indent) (right : indent ≤ m.column) :
    ∃ after, plainWords false indent (y :: fuel) gap ⟨word ++ '\n' :: (indentation column ++ rest), m⟩ =
      .ok (gap.folded ++ word, true, ⟨rest, after⟩) ∧ after.column = column := by
  have whole : PlainText (word ++ []) := by rwa [List.append_nil]
  have read : plainWord false (word ++ '\n' :: (indentation column ++ rest)) m = .ok (word, _) :=
    plain_word_read whole inside rfl rfl m
  have enough : column < ('\n' :: (indentation column ++ rest)).length := by
    simp only [List.length_cons, List.length_append, indentation_length]
    omega
  obtain ⟨after, between, place⟩ :=
    readGap_line (m := m.forward word.length) (some indent) enough (opens_stop opens)
  refine ⟨after, ?_, place⟩
  exact plainWords_end (not_marker right left _) (plain_not_sign plain _ m) read plain.nonempty rfl between
    (place ▸ left)

/-- A word of the text and the spaces behind it, with what is read from the next word on. -/
private theorem plain_more_read (y : Char) {count : Nat} {text more : List Char} {broken : Bool}
    {stop : Cursor} (plain : PlainText (word ++ (indentation (count + 1) ++ cs)))
    (inside : ∀ x ∈ word, x ≠ ' ') (later : PlainText cs) (left : column < indent)
    (right : indent ≤ m.column)
    (read : plainWords false indent fuel (.spaces (indentation (count + 1)))
      ⟨cs ++ text, (m.forward word.length).forward (count + 1)⟩ = .ok (more, broken, stop)) :
    plainWords false indent (y :: fuel) gap ⟨word ++ (indentation (count + 1) ++ (cs ++ text)), m⟩ =
      .ok (gap.folded ++ word ++ more, broken, stop) := by
  have first : plainWord false (word ++ (indentation (count + 1) ++ (cs ++ text))) m = .ok (word, _) :=
    plain_word_read plain inside rfl rfl m
  have between : readGap (some indent) (indentation (count + 1) ++ (cs ++ text)) (.spaces [])
      ⟨indentation (count + 1) ++ (cs ++ text), m.forward word.length⟩ =
      .ok (.spaces (indentation (count + 1)), ⟨cs ++ text, _⟩) :=
    readGap_spaces (some indent) [] (by simp) (opens_stop (plain_opens later text))
  have further : indent ≤ ((m.forward word.length).forward (count + 1)).column := by
    simp only [forward_column]
    omega
  have notSign := plain_not_sign plain text m
  rw [List.append_assoc, List.append_assoc] at notSign
  exact plainWords_more (not_marker right left _) notSign first (plain_word_nonempty plain) rfl between
    further read

/-- A plain scalar at the end of a line is read up to the token behind it, if that stands left of the
column where the lines of the scalar may start. -/
theorem plainWords_read (words : Words (· ≠ ' ') SpaceGap cs) (plain : PlainText cs) (opens : Opens rest)
    (left : column < indent) (right : indent ≤ m.column) (enough : cs.length ≤ fuel.length) :
    ∃ after, plainWords false indent fuel gap ⟨cs ++ '\n' :: (indentation column ++ rest), m⟩ =
      .ok (gap.folded ++ cs, true, ⟨rest, after⟩) ∧ after.column = column := by
  induction words generalizing fuel gap m with
  | last inside =>
    cases fuel with
    | nil => exact absurd (List.length_eq_zero_iff.mp (Nat.le_zero.mp enough)) plain.nonempty
    | cons y fuel => exact plain_last_read y plain inside opens left right
  | @more word _ others inside between resumes _ ih =>
    obtain ⟨count, rfl⟩ := between
    have later := plain_behind plain resumes
    cases fuel with
    | nil => simp [plain_word_nonempty plain] at enough
    | cons y fuel =>
      have enoughLater : others.length ≤ fuel.length := by
        simp only [List.length_append, List.length_cons, indentation_length] at enough
        omega
      have rightLater : indent ≤ ((m.forward word.length).forward (count + 1)).column := by
        simp only [forward_column]
        omega
      obtain ⟨after, read, place⟩ :=
        @ih _ fuel (.spaces (indentation (count + 1))) later rightLater enoughLater
      refine ⟨after, ?_, place⟩
      rw [List.append_assoc, List.append_assoc, ← List.append_assoc gap.folded]
      exact plain_more_read y plain inside later left right read

end Words

theorem readPlain_line {indent column : Nat} (plain : PlainText cs) (opens : Opens rest)
    (left : column < indent) (right : indent ≤ m.column) :
    ∃ after, readPlain false indent ⟨cs ++ '\n' :: (indentation column ++ rest), m⟩ =
      .ok (cs, true, ⟨rest, after⟩) ∧ after.column = column :=
  plainWords_read (words_of_spaces cs) plain opens left right (by simp)

/-- A key is read up to its colon. -/
theorem readPlain_key {indent : Nat} (nonempty : word ≠ []) (name : ∀ x ∈ word, isNameChar x = true)
    (spacing : atSpacing rest = true) :
    readPlain false indent ⟨word ++ ':' :: rest, m⟩ =
      .ok (word, false, ⟨':' :: rest, m.forward word.length⟩) := by
  obtain ⟨x, tail, rfl⟩ := List.exists_cons_of_ne_nil nonempty
  have notSign : x ≠ '#' := nameChar_ne (name x List.mem_cons_self) rfl
  have notDash : x ≠ '-' := nameChar_ne (name x List.mem_cons_self) rfl
  have notPoint : x ≠ '.' := nameChar_ne (name x List.mem_cons_self) rfl
  have inDocument : atDocumentMarker (x :: tail ++ ':' :: rest) = false := by
    simp [atDocumentMarker, notDash, notPoint]
  have noKey : ∀ before others, x :: tail = before ++ ':' :: others →
      atSpacing (others ++ ':' :: rest) = false := by
    intro before others eq
    have colon := name ':' (by simp [eq])
    cases colon
  have read := plainWord_read (m := m) (fun y member => nameChar_spacing (name y member)) noKey
    (.inr ⟨rest, rfl, spacing⟩)
  exact plainWords_stop (fun ⟨_, marker⟩ => Bool.noConfusion (inDocument.symm.trans marker))
    (by simp [notSign]) read nonempty rfl

end PlainText
end SemanticLayer.Yaml

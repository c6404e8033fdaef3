import SemanticLayer.Proofs.Yaml.Gaps

/-! Texts as words with gaps between them. The readers of scalars take one word after the other, so
that a proof about a text goes by its words and not by its characters. -/
namespace SemanticLayer.Yaml

/-- A text of words, with a gap between each two of them; the first and the last one may be empty. -/
inductive Words (inWord : Char → Prop) (isGapText : List Char → Prop) : List Char → Prop
  | last {word : List Char} (inside : ∀ x ∈ word, inWord x) : Words inWord isGapText word
  | more {word gap rest : List Char} (inside : ∀ x ∈ word, inWord x) (between : isGapText gap)
      (resumes : ∀ x ∈ rest.head?, inWord x) (others : Words inWord isGapText rest) :
      Words inWord isGapText (word ++ (gap ++ rest))

/-- Spaces, one at least. -/
def SpaceGap (gap : List Char) : Prop := ∃ count, gap = indentation (count + 1)

/-- Printable line breaks, one at least. -/
def BreakGap (gap : List Char) : Prop :=
  gap ≠ [] ∧ ∀ x ∈ gap, isPrintable x = true ∧ isBreak x = true

section Words
variable {inWord : Char → Prop} {isGapText : List Char → Prop} {x : Char} {cs : List Char}

theorem words_cons (inside : inWord x) (words : Words inWord isGapText cs) :
    Words inWord isGapText (x :: cs) := by
  cases words with
  | last later => exact .last (List.forall_mem_cons.mpr ⟨inside, later⟩)
  | @more word gap rest later between resumes others =>
    exact @Words.more _ _ (x :: word) gap rest (List.forall_mem_cons.mpr ⟨inside, later⟩) between resumes
      others

/-- A gap before a text: either a word follows, or a gap that it can be joined to. -/
theorem words_gap_cons (single : isGapText [x]) (words : Words inWord isGapText cs)
    (join : ∀ gap rest, cs = gap ++ rest → isGapText gap → isGapText (x :: gap)) :
    Words inWord isGapText (x :: cs) := by
  have alone (resumes : ∀ y ∈ cs.head?, inWord y) : Words inWord isGapText (x :: cs) :=
    .more (List.forall_mem_nil inWord) single resumes words
  cases words with
  | last inside => exact alone fun y first => inside y (List.mem_of_mem_head? first)
  | @more word gap rest inside between resumes others =>
    cases word with
    | nil => exact .more inside (join gap rest rfl between) resumes others
    | cons y word =>
      refine alone fun z first => ?_
      obtain rfl : y = z := by simpa using first
      exact inside y List.mem_cons_self

theorem space_gap_one : SpaceGap [' '] := ⟨0, rfl⟩

theorem space_gap_cons {gap : List Char} (spaces : SpaceGap gap) : SpaceGap (' ' :: gap) := by
  obtain ⟨count, rfl⟩ := spaces
  exact ⟨count + 1, rfl⟩

/-- Every text is one of words between spaces. -/
theorem words_of_spaces (cs : List Char) : Words (· ≠ ' ') SpaceGap cs := by
  induction cs with
  | nil => exact .last fun _ member => absurd member List.not_mem_nil
  | cons x cs ih =>
    by_cases space : x = ' '
    · subst space
      exact words_gap_cons space_gap_one ih fun _ _ _ => space_gap_cons
    · exact words_cons space ih

theorem no_space_before_break {rest : List Char} (none : spaceBeforeBreak (x :: rest) = false) :
    spaceBeforeBreak rest = false ∧ (x = ' ' → ∀ y ∈ rest.head?, isBreak y = false) := by
  cases rest with
  | nil => simp [spaceBeforeBreak]
  | cons y rest =>
    by_cases space : x = ' '
    · subst space
      simp only [spaceBeforeBreak, Bool.or_eq_false_iff] at none
      simp [none]
    · simp_all [spaceBeforeBreak]

theorem no_space_after_break {rest : List Char} (none : spaceAfterBreak (x :: rest) = false) :
    spaceAfterBreak rest = false ∧ (isBreak x = true → rest.head? ≠ some ' ') := by
  cases rest with
  | nil => simp [spaceAfterBreak]
  | cons y rest =>
    by_cases space : y = ' '
    · subst space
      simp only [spaceAfterBreak, Bool.or_eq_false_iff] at none
      simp [none]
    · simp_all [spaceAfterBreak]

/-- A printable text in which no space stands beside a line break is one of words between spaces and
words between breaks. -/
theorem words_of_lines (printable : ∀ x ∈ cs, isPrintable x = true)
    (before : spaceBeforeBreak cs = false) (after : spaceAfterBreak cs = false) :
    Words (isSpacing · = false) (fun gap => SpaceGap gap ∨ BreakGap gap) cs := by
  induction cs with
  | nil => exact .last fun _ member => absurd member List.not_mem_nil
  | cons x cs ih =>
    obtain ⟨shown, shownLater⟩ := List.forall_mem_cons.mp printable
    obtain ⟨beforeLater, notBefore⟩ := no_space_before_break before
    obtain ⟨afterLater, notAfter⟩ := no_space_after_break after
    have later := ih shownLater beforeLater afterLater
    cases broken : isBreak x with
    | true =>
      refine words_gap_cons (.inr ⟨by simp, by simp [shown, broken]⟩) later fun gap rest joined gapText => ?_
      rcases gapText with ⟨count, rfl⟩ | ⟨nonempty, breaks⟩
      · exact absurd (by rw [joined]; rfl) (notAfter broken)
      · exact .inr ⟨by simp, List.forall_mem_cons.mpr ⟨⟨shown, broken⟩, breaks⟩⟩
    | false =>
      cases gap : isGap x with
      | true =>
        obtain rfl := printable_gap shown gap
        refine words_gap_cons (.inl space_gap_one) later fun gap rest joined gapText => ?_
        rcases gapText with spaces | ⟨nonempty, breaks⟩
        · exact .inl (space_gap_cons spaces)
        · obtain ⟨y, others, rfl⟩ := List.exists_cons_of_ne_nil nonempty
          have noBreak := notBefore rfl y (by rw [joined]; rfl)
          rw [(breaks y List.mem_cons_self).2] at noBreak
          cases noBreak
      | false => exact words_cons (by rw [isSpacing, gap, broken]; rfl) later

end Words
end SemanticLayer.Yaml

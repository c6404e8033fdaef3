import Mathlib
import SemanticLayer.Yaml.Token.Scalar

/-! What stands between the words of a written text: spaces on one line, or line breaks and the
indentation of the line that follows them. For each of the readers that step over such gaps, where
it comes to stand and what it takes the gap for. -/
namespace SemanticLayer.Yaml

/-! ### Places -/

/-- The place that is so many characters further on the same line. -/
def Mark.forward (m : Mark) (count : Nat) : Mark := ⟨m.index + count, m.line, m.column + count⟩

section Mark
variable (m : Mark) (count : Nat)

@[simp] theorem forward_zero : m.forward 0 = m := rfl

@[simp] theorem forward_index : (m.forward count).index = m.index + count := rfl

@[simp] theorem forward_column : (m.forward count).column = m.column + count := rfl

@[simp] theorem next_forward : m.next.forward count = m.forward (count + 1) := by
  simp only [Mark.forward, Mark.next, Mark.mk.injEq, true_and]
  omega

@[simp] theorem forward_forward (more : Nat) :
    (m.forward count).forward more = m.forward (count + more) := by
  simp only [Mark.forward, Mark.mk.injEq, true_and]
  omega

theorem next_eq_forward : m.next = m.forward 1 := rfl

@[simp] theorem nextLine_column (width : Nat) : (m.nextLine width).column = 0 := rfl

end Mark

namespace Cursor

/-- A span takes the characters of a class up to the first other one. -/
theorem span_append {p : Char → Bool} {xs rest : List Char} (all : ∀ x ∈ xs, p x = true)
    (stop : rest.head?.any p = false) (m : Mark) :
    span p (xs ++ rest) m = (xs, ⟨rest, m.forward xs.length⟩) := by
  induction xs generalizing m with
  | nil =>
    cases rest with
    | nil => rfl
    | cons x rest =>
      have outside : p x = false := stop
      simp [span, outside]
  | cons x xs ih =>
    have inside : p x = true := all x List.mem_cons_self
    have tail := ih (fun y later => all y (List.mem_cons_of_mem x later)) m.next
    simp [span, inside, tail]

theorem skipWhile_append {p : Char → Bool} {xs rest : List Char} (all : ∀ x ∈ xs, p x = true)
    (stop : rest.head?.any p = false) (m : Mark) :
    skipWhile p ⟨xs ++ rest, m⟩ = ⟨rest, m.forward xs.length⟩ := by
  rw [skipWhile, span_append all stop]

theorem skipWhile_none {p : Char → Bool} {rest : List Char} (stop : rest.head?.any p = false)
    (m : Mark) : skipWhile p ⟨rest, m⟩ = ⟨rest, m⟩ := by
  have stays := skipWhile_append (List.forall_mem_nil (p · = true)) stop m
  exact stays

theorem steps_append (xs rest : List Char) (m : Mark) :
    steps xs.length ⟨xs ++ rest, m⟩ = ⟨rest, m.forward xs.length⟩ := by
  induction xs generalizing m with
  | nil => rfl
  | cons x xs ih => simp [steps, step, ih]

theorem at?_eq (p : Char → Bool) (rest : List Char) (m : Mark) : at? p ⟨rest, m⟩ = rest.head?.any p := by
  cases rest <;> rfl

@[simp] theorem at?_cons (p : Char → Bool) (x : Char) (rest : List Char) (m : Mark) :
    at? p ⟨x :: rest, m⟩ = p x := rfl

@[simp] theorem at?_nil (p : Char → Bool) (m : Mark) : at? p ⟨[], m⟩ = false := rfl

end Cursor

/-! ### Classes of characters -/

section Classes
variable {x : Char}

theorem printable_allowed (printable : isPrintable x = true) : isAllowed x = true := by
  simp only [isPrintable, isAllowed, Bool.or_eq_true, Bool.and_eq_true, decide_eq_true_eq] at *
  omega

/-- Of the printable characters only the line feed and the two separators break a line. -/
theorem printable_break (printable : isPrintable x = true) (breaks : isBreak x = true) :
    x = '\n' ∨ x.toNat = 0x2028 ∨ x.toNat = 0x2029 := by
  simp only [isPrintable, isBreak, Bool.or_eq_true, Bool.and_eq_true, decide_eq_true_eq] at *
  rcases breaks with (((feed | rfl) | next) | line) | paragraph
  · exact .inl feed
  · simp at printable
  · omega
  · exact .inr (.inl line)
  · exact .inr (.inr paragraph)

/-- A space is the only printable character that leaves a gap without breaking the line. -/
theorem printable_gap (printable : isPrintable x = true) (gap : isGap x = true) : x = ' ' := by
  simp only [isGap, Bool.or_eq_true, decide_eq_true_eq] at gap
  rcases gap with space | rfl
  · exact space
  · simp [isPrintable] at printable

theorem printable_spacing (printable : isPrintable x = true) (noBreak : isBreak x = false)
    (notSpace : x ≠ ' ') : isSpacing x = false := by
  have noGap : isGap x = false :=
    Bool.eq_false_of_not_eq_true fun gap => notSpace (printable_gap printable gap)
  rw [isSpacing, noGap, noBreak]
  rfl

theorem break_not_gap (breaks : isBreak x = true) : isGap x = false := by
  cases gap : isGap x with
  | false => rfl
  | true =>
    rw [isGap, Bool.or_eq_true, decide_eq_true_eq, decide_eq_true_eq] at gap
    rcases gap with rfl | rfl <;> exact Bool.noConfusion breaks

/-- A printable break stands for itself. -/
theorem lineBreak_printable (printable : isPrintable x = true) (breaks : isBreak x = true)
    (rest : List Char) (m : Mark) :
    Cursor.lineBreak ⟨x :: rest, m⟩ = ([x], ⟨rest, m.nextLine 1⟩) := by
  rcases printable_break printable breaks with rfl | line | paragraph
  · simp [Cursor.lineBreak]
  all_goals
    have notReturn : x ≠ '\r' := by
      rintro rfl
      simp [isPrintable] at printable
    simp [Cursor.lineBreak, *]

end Classes

/-! ### Gaps between words -/

/-- The text is at its end or at the start of a token: no white space comes first and no comment. -/
def Opens (rest : List Char) : Prop := ∀ x ∈ rest.head?, isSpacing x = false ∧ x ≠ '#'

section Gaps
variable {rest fuel : List Char} {m : Mark}

theorem opens_cons {x : Char} (quiet : isSpacing x = false) (notSign : x ≠ '#') : Opens (x :: rest) := by
  intro y first
  obtain rfl : x = y := by simpa using first
  exact ⟨quiet, notSign⟩

/-- Nothing of what stands before tokens comes next. -/
theorem opens_none (opens : Opens rest) {p : Char → Bool}
    (before : ∀ x, p x = true → isSpacing x = true ∨ x = '#') : rest.head?.any p = false := by
  cases rest with
  | nil => rfl
  | cons x rest =>
    obtain ⟨quiet, notSign⟩ := opens x rfl
    refine Bool.eq_false_of_not_eq_true fun isBefore => ?_
    rcases before x isBefore with spacing | sign
    · exact Bool.noConfusion (quiet.symm.trans spacing)
    · exact notSign sign

theorem opens_stop (opens : Opens rest) : rest.head?.any isSpacing = false :=
  opens_none opens fun _ => .inl

@[simp] theorem indentation_length (column : Nat) : (indentation column).length = column :=
  List.length_replicate

theorem indentation_succ (column : Nat) : indentation (column + 1) = ' ' :: indentation column := rfl

theorem mem_indentation {column : Nat} {x : Char} (member : x ∈ indentation column) : x = ' ' :=
  List.eq_of_mem_replicate member

theorem readGap_stop (indent : Option Nat) (gap : Gap) (stop : rest.head?.any isSpacing = false) :
    readGap indent fuel gap ⟨rest, m⟩ = .ok (gap, ⟨rest, m⟩) := by
  cases fuel with
  | nil => rfl
  | cons _ fuel =>
    cases rest with
    | nil => rfl
    | cons x rest =>
      have outside : isSpacing x = false := stop
      rw [isSpacing, Bool.or_eq_false_iff] at outside
      simp [readGap, outside]

/-- Spaces on the line are kept. -/
theorem readGap_spaces (indent : Option Nat) {count : Nat} (before : List Char)
    (enough : count ≤ fuel.length) (stop : rest.head?.any isSpacing = false) :
    readGap indent fuel (.spaces before) ⟨indentation count ++ rest, m⟩ =
      .ok (.spaces (before ++ indentation count), ⟨rest, m.forward count⟩) := by
  induction count generalizing before fuel m with
  | zero => simpa [indentation] using readGap_stop indent (.spaces before) stop
  | succ count ih =>
    cases fuel with
    | nil => simp at enough
    | cons _ fuel =>
      have later := ih (m := m.next) (before ++ [' ']) (Nat.le_of_succ_le_succ enough)
      simp [readGap, indentation_succ, isGap, Cursor.step, later]

/-- Spaces behind a break are indentation, which is dropped. -/
theorem readGap_indentation (indent : Option Nat) {count : Nat} (first others : List Char)
    (enough : count ≤ fuel.length) (stop : rest.head?.any isSpacing = false) :
    readGap indent fuel (.breaks first others) ⟨indentation count ++ rest, m⟩ =
      .ok (.breaks first others, ⟨rest, m.forward count⟩) := by
  induction count generalizing fuel m with
  | zero => simpa [indentation] using readGap_stop indent (.breaks first others) stop
  | succ count ih =>
    cases fuel with
    | nil => simp at enough
    | cons _ fuel =>
      have later := ih (m := m.next) (Nat.le_of_succ_le_succ enough)
      simp [readGap, indentation_succ, isGap, Cursor.step, later]

/-- Breaks are kept, whatever the indentation of the line behind the last one. -/
theorem readGap_more_breaks (indent : Option Nat) {count : Nat} {breaks : List Char}
    (first others : List Char)
    (printable : ∀ x ∈ breaks, isPrintable x = true ∧ isBreak x = true)
    (enough : breaks.length + count ≤ fuel.length) (stop : rest.head?.any isSpacing = false)
    (atStart : m.column = 0) :
    ∃ after, readGap indent fuel (.breaks first others) ⟨breaks ++ (indentation count ++ rest), m⟩ =
      .ok (.breaks first (others ++ breaks), ⟨rest, after⟩) ∧ after.column = count := by
  induction breaks generalizing others fuel m with
  | nil =>
    refine ⟨m.forward count, ?_, by simp [atStart]⟩
    simpa using readGap_indentation indent first others (by simpa using enough) stop
  | cons x breaks ih =>
    cases fuel with
    | nil => simp at enough
    | cons _ fuel =>
      obtain ⟨shown, broken⟩ := printable x List.mem_cons_self
      have enoughLater : breaks.length + count ≤ fuel.length := by
        simp only [List.length_cons] at enough
        omega
      obtain ⟨after, read, column⟩ := ih (m := m.nextLine 1) (others ++ [x])
        (fun y later => printable y (List.mem_cons_of_mem x later)) enoughLater rfl
      refine ⟨after, ?_, column⟩
      simp only [List.append_assoc, List.singleton_append] at read
      simp [readGap, break_not_gap broken, broken, lineBreak_printable shown broken, read]

/-- A gap that begins with a break: what follows the last break is indentation. -/
theorem readGap_breaks (indent : Option Nat) {count : Nat} {x : Char} {breaks : List Char}
    (printable : ∀ y ∈ x :: breaks, isPrintable y = true ∧ isBreak y = true)
    (enough : breaks.length + 1 + count ≤ fuel.length) (stop : rest.head?.any isSpacing = false) :
    ∃ after, readGap indent fuel (.spaces []) ⟨x :: (breaks ++ (indentation count ++ rest)), m⟩ =
      .ok (.breaks [x] breaks, ⟨rest, after⟩) ∧ after.column = count := by
  cases fuel with
  | nil => simp at enough
  | cons _ fuel =>
    obtain ⟨shown, broken⟩ := printable x List.mem_cons_self
    have enoughLater : breaks.length + count ≤ fuel.length := by
      simp only [List.length_cons] at enough
      omega
    obtain ⟨after, read, column⟩ := readGap_more_breaks (m := m.nextLine 1) indent [x] []
      (fun y later => printable y (List.mem_cons_of_mem x later)) enoughLater stop rfl
    refine ⟨after, ?_, column⟩
    simp only [List.nil_append] at read
    simp [readGap, break_not_gap broken, broken, lineBreak_printable shown broken, read]

/-- The end of a line, up to the token on the next one. -/
theorem readGap_line (indent : Option Nat) {count : Nat} (enough : count < fuel.length)
    (stop : rest.head?.any isSpacing = false) :
    ∃ after, readGap indent fuel (.spaces []) ⟨'\n' :: (indentation count ++ rest), m⟩ =
      .ok (.breaks ['\n'] [], ⟨rest, after⟩) ∧ after.column = count := by
  have feed : ∀ y ∈ ['\n'], isPrintable y = true ∧ isBreak y = true := by
    simp [isPrintable, isBreak]
  exact readGap_breaks indent feed (by simpa [Nat.add_comm] using enough) stop

end Gaps

end SemanticLayer.Yaml

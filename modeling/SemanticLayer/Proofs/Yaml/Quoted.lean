import SemanticLayer.Proofs.Yaml.Words

/-! Scalars in quotes are read back. In double quotes every character that could be misread is
escaped, so that a text is one line whose words are parted by spaces; in single quotes a text may
also have line breaks, which the reader keeps since they are no line feeds. -/
namespace SemanticLayer.Yaml

/-! ### Escapes -/

private theorem upper_hex_read : ∀ n < 16, Plain.digitValue? (upperHex n) = some n := by decide

theorem hex_digits_length (count n : Nat) : (hexDigits count n).length = count := by
  induction count generalizing n with
  | zero => rfl
  | succ count ih => simp [hexDigits, ih]

/-- Written digits are read into the number that they continue. -/
theorem hexEscape_digits (c : Cursor) (count more value n : Nat) (rest : List Char) :
    hexEscape c (count + more) value (hexDigits count n ++ rest) =
      hexEscape c more (value * 16 ^ count + n % 16 ^ count) rest := by
  induction count generalizing more n rest with
  | zero => simp [hexDigits, Nat.mod_one]
  | succ count ih =>
    have digit := upper_hex_read (n % 16) (Nat.mod_lt n (by decide))
    have split : n % 16 ^ (count + 1) = n % 16 + 16 * (n / 16 % 16 ^ count) := by
      rw [pow_succ, Nat.mul_comm, Nat.mod_mul]
    rw [hexDigits, List.append_assoc, Nat.add_right_comm, Nat.add_assoc, ih (more + 1)]
    simp only [List.singleton_append, hexEscape, digit]
    congr 1
    rw [split, pow_succ]
    ring

theorem hexEscape_number (c : Cursor) {count n : Nat} (small : n < 16 ^ count) (rest : List Char) :
    hexEscape c count 0 (hexDigits count n ++ rest) = .ok n := by
  have read := hexEscape_digits c count 0 0 n rest
  simpa [hexEscape, Nat.mod_eq_of_lt small] using read

private theorem readEscape_number (letter x : Char) (width : Nat) (rest : List Char) (m : Mark)
    (other : simpleEscape? letter = none) (digits : hexWidth? letter = some width)
    (small : x.toNat < 16 ^ width) :
    readEscape ⟨'\\' :: letter :: hexDigits width x.toNat ++ rest, m⟩ =
      .ok (x, ⟨rest, m.forward ('\\' :: letter :: hexDigits width x.toNat).length⟩) := by
  have behind := Cursor.steps_append ('\\' :: letter :: hexDigits width x.toNat) rest m
  have valid : ¬((0xD800 ≤ x.toNat ∧ x.toNat ≤ 0xDFFF) ∨ 0x10FFFF < x.toNat) := by
    have scalar := x.valid
    simp only [UInt32.isValidChar, Nat.isValidChar] at scalar
    rw [Char.toNat]
    omega
  have length : ('\\' :: letter :: hexDigits width x.toNat).length = 2 + width := by
    rw [List.length_cons, List.length_cons, hex_digits_length, Nat.add_assoc, Nat.add_comm]
  rw [length] at behind ⊢
  simp only [List.cons_append] at behind ⊢
  simp only [readEscape, other, digits, hexEscape_number _ small, behind]
  rw [if_neg valid, Char.ofNat_toNat]

private theorem readEscape_letter {letter x : Char} {rest : List Char} {m : Mark}
    (known : simpleEscape? letter = some x) :
    readEscape ⟨'\\' :: letter :: rest, m⟩ = .ok (x, ⟨rest, m.forward 2⟩) := by
  simp [readEscape, known, Cursor.steps, Cursor.step, next_eq_forward]

/-- The codes of the characters that have an escape of one letter. -/
private def letterCodes : List Nat :=
  [0, 7, 8, 9, 0xA, 0xB, 0xC, 0xD, 0x1B, 0x22, 0x5C, 0x85, 0xA0, 0x2028, 0x2029]

private theorem escape_letter : ∀ n ∈ letterCodes,
    (escape (Char.ofNat n)).tail.map (fun y => (simpleEscape? y, isBreak y)) =
      [(some (Char.ofNat n), false)] := by decide

/-- A short escape is a backslash and a letter. -/
private theorem escape_short {x : Char} (short : x.toNat ∈ letterCodes) :
    ∃ letter, escape x = ['\\', letter] ∧ simpleEscape? letter = some x ∧ isBreak letter = false := by
  have known := escape_letter _ short
  rw [Char.ofNat_toNat, List.map_eq_singleton_iff] at known
  obtain ⟨letter, written, known⟩ := known
  obtain ⟨stands, noBreak⟩ := Prod.mk.inj known
  exact ⟨letter, congrArg ('\\' :: ·) written, stands, noBreak⟩

private theorem escape_number {x : Char} (other : x.toNat ∉ letterCodes) :
    escape x = '\\' :: (if x.toNat ≤ 0xFF then 'x' :: hexDigits 2 x.toNat
      else if x.toNat ≤ 0xFFFF then 'u' :: hexDigits 4 x.toNat
      else 'U' :: hexDigits 8 x.toNat) := by
  simp only [letterCodes, List.mem_cons, List.not_mem_nil, or_false, not_or] at other
  simp only [escape, other, if_false]

/-- The escape of a character is read back as that character. -/
theorem readEscape_escape (x : Char) (rest : List Char) (m : Mark) :
    readEscape ⟨escape x ++ rest, m⟩ = .ok (x, ⟨rest, m.forward (escape x).length⟩) := by
  by_cases short : x.toNat ∈ letterCodes
  · obtain ⟨letter, written, known, _⟩ := escape_short short
    rw [written]
    exact readEscape_letter known
  · rw [escape_number short]
    split
    · rename_i byte
      exact readEscape_number 'x' x 2 rest m rfl rfl (by omega)
    split
    · rename_i small
      exact readEscape_number 'u' x 4 rest m rfl rfl (by omega)
    · have scalar := x.valid
      simp only [UInt32.isValidChar, Nat.isValidChar] at scalar
      refine readEscape_number 'U' x 8 rest m rfl rfl ?_
      rw [Char.toNat]
      omega

/-- An escape is no escaped line break. -/
private theorem escape_shape (x : Char) :
    ∃ y tail, escape x = '\\' :: y :: tail ∧ isBreak y = false := by
  by_cases short : x.toNat ∈ letterCodes
  · obtain ⟨letter, written, _, noBreak⟩ := escape_short short
    exact ⟨letter, [], written, noBreak⟩
  · rw [escape_number short]
    split
    · exact ⟨_, _, rfl, rfl⟩
    split
    · exact ⟨_, _, rfl, rfl⟩
    · exact ⟨_, _, rfl, rfl⟩

/-! ### One character of a word -/

section Steps
variable {single broken : Bool} {fuel rest xs : List Char} {x y : Char} {m : Mark} {after : Cursor}

/-- The quote that closes a scalar. -/
def closingQuote (single : Bool) : Char := if single then '\'' else '"'

/-- A word in quotes ends where a space or a break follows, or the closing quote, which in single
quotes is no doubled one. -/
def EndsWord (single : Bool) (rest : List Char) : Prop :=
  ∃ x tail, rest = x :: tail ∧
    (isSpacing x = true ∨ x = closingQuote single ∧ (single = true → tail.head? ≠ some '\''))

theorem quotedWord_end (ends : EndsWord single rest) :
    quotedWord single fuel ⟨rest, m⟩ = .ok ([], false, ⟨rest, m⟩) := by
  obtain ⟨x, tail, rfl, spacing | ⟨rfl, notTwice⟩⟩ := ends
  · cases fuel <;> simp [quotedWord, spacing]
  · cases fuel with
    | nil => rfl
    | cons _ fuel =>
      cases single
      · simp [quotedWord, closingQuote]
      · have alone := notTwice rfl
        simp [quotedWord, closingQuote, alone]

theorem quotedWord_plain (inWord : isSpacing x = false) (notQuote : x ≠ closingQuote single)
    (notEscape : single = true ∨ x ≠ '\\')
    (read : quotedWord single fuel ⟨rest, m.next⟩ = .ok (xs, broken, after)) :
    quotedWord single (y :: fuel) ⟨x :: rest, m⟩ = .ok (x :: xs, broken, after) := by
  cases single <;> simp_all [quotedWord, closingQuote, Cursor.step, bind, Except.bind, pure, Except.pure]

theorem quotedWord_escape
    (read : quotedWord false fuel ⟨rest, m.forward (escape x).length⟩ = .ok (xs, broken, after)) :
    quotedWord false (y :: fuel) ⟨escape x ++ rest, m⟩ = .ok (x :: xs, broken, after) := by
  have escaped := readEscape_escape x rest m
  obtain ⟨z, tail, shape, noBreak⟩ := escape_shape x
  rw [shape] at read escaped ⊢
  simp only [List.cons_append, List.length_cons] at read escaped ⊢
  have notSpacing : isSpacing '\\' = false := rfl
  simp [quotedWord, notSpacing, noBreak, escaped, read, bind, Except.bind, pure, Except.pure]

theorem quotedWord_twice
    (read : quotedWord true fuel ⟨rest, m.forward 2⟩ = .ok (xs, broken, after)) :
    quotedWord true (y :: fuel) ⟨'\'' :: '\'' :: rest, m⟩ = .ok ('\'' :: xs, broken, after) := by
  have notSpacing : isSpacing '\'' = false := rfl
  simp [quotedWord, notSpacing, Cursor.steps, Cursor.step, next_eq_forward, read, bind, Except.bind,
    pure, Except.pure]

end Steps

/-! ### One word after the other -/

section Loop
variable {single : Bool} {fuel rest tail word more : List Char} {y : Char} {c middle last : Cursor}
  {after : Mark} {gap : Gap}

theorem quotedWords_last (inLine : c.mark.column ≠ 0) (going : c.rest ≠ [])
    (read : quotedWord single c.rest c = .ok (word, false, ⟨closingQuote single :: tail, after⟩)) :
    quotedWords single (y :: fuel) c = .ok (word, ⟨tail, after.next⟩) := by
  simp [quotedWords, inLine, going, read, bind, Except.bind, pure, Except.pure, Cursor.step,
    closingQuote]

theorem quotedWords_more {x : Char} (inLine : c.mark.column ≠ 0) (going : c.rest ≠ [])
    (read : quotedWord single c.rest c = .ok (word, false, ⟨x :: rest, after⟩))
    (spacing : isSpacing x = true)
    (between : readGap none (x :: rest) (.spaces []) ⟨x :: rest, after⟩ = .ok (gap, middle))
    (others : quotedWords single fuel middle = .ok (more, last)) :
    quotedWords single (y :: fuel) c = .ok (word ++ (gap.folded ++ more), last) := by
  have notQuote : x ≠ '\'' ∧ x ≠ '"' := by
    constructor <;> rintro rfl <;> exact Bool.noConfusion spacing
  cases single <;>
    simp [quotedWords, inLine, going, read, notQuote, between, others, bind, Except.bind, pure,
      Except.pure]

end Loop

/-! ### Double quotes -/

/-- Whether a character is escaped in double quotes. -/
private def IsEscaped (x : Char) : Prop :=
  isPrintable x = false ∨ isBreak x = true ∨ x = '"' ∨ x = '\\'

private theorem double_escaped {x : Char} (escaped : IsEscaped x) (cs : List Char) :
    doubleChars (x :: cs) = escape x ++ doubleChars cs := by
  unfold doubleChars
  rw [List.flatMap_cons, if_pos]
  simpa [IsEscaped, or_assoc] using escaped

private theorem double_plain {x : Char} (plain : ¬IsEscaped x) (cs : List Char) :
    doubleChars (x :: cs) = x :: doubleChars cs := by
  unfold doubleChars
  rw [List.flatMap_cons, if_neg, List.singleton_append]
  simpa [IsEscaped, or_assoc] using plain

private theorem double_append (xs ys : List Char) :
    doubleChars (xs ++ ys) = doubleChars xs ++ doubleChars ys :=
  List.flatMap_append

private theorem double_spaces (count : Nat) : doubleChars (indentation count) = indentation count := by
  induction count with
  | zero => rfl
  | succ count ih =>
    have plain : ¬IsEscaped ' ' := by simp [IsEscaped, isPrintable, isBreak]
    rw [indentation_succ, double_plain plain, ih]

theorem quotedWord_double {word rest fuel : List Char} {m : Mark} (inside : ∀ x ∈ word, x ≠ ' ')
    (ends : EndsWord false rest) (enough : word.length ≤ fuel.length) :
    ∃ after, quotedWord false fuel ⟨doubleChars word ++ rest, m⟩ = .ok (word, false, ⟨rest, after⟩) ∧
      m.column ≤ after.column := by
  induction word generalizing fuel m with
  | nil => exact ⟨m, quotedWord_end ends, le_rfl⟩
  | cons x word ih =>
    cases fuel with
    | nil => simp at enough
    | cons _ fuel =>
      obtain ⟨notSpace, later⟩ := List.forall_mem_cons.mp inside
      have enoughLater : word.length ≤ fuel.length := Nat.le_of_succ_le_succ enough
      by_cases escaped : IsEscaped x
      · obtain ⟨after, read, further⟩ := ih (m := m.forward (escape x).length) later enoughLater
        refine ⟨after, ?_, (Nat.le_add_right _ _).trans further⟩
        rw [double_escaped escaped, List.append_assoc]
        exact quotedWord_escape read
      · obtain ⟨after, read, further⟩ := ih (m := m.next) later enoughLater
        refine ⟨after, ?_, (Nat.le_succ _).trans further⟩
        simp only [IsEscaped, not_or, Bool.not_eq_false, Bool.not_eq_true] at escaped
        obtain ⟨shown, noBreak, notQuote, notEscape⟩ := escaped
        rw [double_plain (by simp [IsEscaped, *])]
        have inWord : isSpacing x = false := printable_spacing shown noBreak notSpace
        exact quotedWord_plain inWord notQuote (.inr notEscape) read

private theorem double_length (cs tail : List Char) : cs.length ≤ (doubleChars cs ++ tail).length := by
  induction cs with
  | nil => exact Nat.zero_le _
  | cons x cs ih =>
    by_cases escaped : IsEscaped x
    · obtain ⟨y, others, shape, _⟩ := escape_shape x
      rw [double_escaped escaped, shape]
      simp only [List.length_cons, List.length_append] at ih ⊢
      omega
    · rw [double_plain escaped]
      exact Nat.succ_le_succ ih

/-- What is written of a text that starts with no space starts with none. -/
private theorem double_stop {cs : List Char} (resumes : ∀ x ∈ cs.head?, x ≠ ' ') (tail : List Char) :
    (doubleChars cs ++ '"' :: tail).head?.any isSpacing = false := by
  cases cs with
  | nil => rfl
  | cons x cs =>
    by_cases escaped : IsEscaped x
    · obtain ⟨y, others, shape, _⟩ := escape_shape x
      rw [double_escaped escaped, shape]
      rfl
    · rw [double_plain escaped]
      simp only [IsEscaped, not_or, Bool.not_eq_false, Bool.not_eq_true] at escaped
      exact printable_spacing escaped.1 escaped.2.1 (resumes x rfl)

theorem quotedWords_double {cs tail fuel : List Char} {m : Mark} (words : Words (· ≠ ' ') SpaceGap cs)
    (inLine : m.column ≠ 0) (enough : cs.length < fuel.length) :
    ∃ after, quotedWords false fuel ⟨doubleChars cs ++ '"' :: tail, m⟩ = .ok (cs, ⟨tail, after⟩) := by
  induction words generalizing fuel m with
  | @last word inside =>
    cases fuel with
    | nil => simp at enough
    | cons _ fuel =>
      have ends : EndsWord false ('"' :: tail) := ⟨_, _, rfl, .inr ⟨rfl, by simp⟩⟩
      obtain ⟨after, read, _⟩ := quotedWord_double (m := m) inside ends (double_length word _)
      exact ⟨after.next, quotedWords_last inLine (by simp) read⟩
  | @more word gap rest inside between resumes others ih =>
    obtain ⟨count, rfl⟩ := between
    cases fuel with
    | nil => simp at enough
    | cons _ fuel =>
      have written : doubleChars (word ++ (indentation (count + 1) ++ rest)) ++ '"' :: tail =
          doubleChars word ++ (indentation (count + 1) ++ (doubleChars rest ++ '"' :: tail)) := by
        rw [double_append, double_append, double_spaces, List.append_assoc, List.append_assoc]
      rw [written]
      generalize follows : doubleChars rest ++ '"' :: tail = text
      have ends : EndsWord false (indentation (count + 1) ++ text) := ⟨' ', _, rfl, .inl rfl⟩
      obtain ⟨middle, read, further⟩ := quotedWord_double (m := m) inside ends (double_length word _)
      have stop : text.head?.any isSpacing = false := follows ▸ double_stop resumes tail
      have gap : readGap none (indentation (count + 1) ++ text) (.spaces [])
          ⟨indentation (count + 1) ++ text, middle⟩ =
          .ok (.spaces (indentation (count + 1)), ⟨text, middle.forward (count + 1)⟩) :=
        readGap_spaces none [] (by simp) stop
      have enoughLater : rest.length < fuel.length := by
        simp only [List.length_append, List.length_cons, indentation_length] at enough
        omega
      obtain ⟨after, later⟩ := ih (m := middle.forward (count + 1))
        (by rw [forward_column]; omega) enoughLater
      rw [follows] at later
      exact ⟨after, quotedWords_more inLine (by simp [indentation_succ]) read rfl gap later⟩

/-- A text in double quotes is read back. -/
theorem readQuoted_double (cs tail : List Char) (m : Mark) :
    ∃ after, readQuoted false ⟨'"' :: (doubleChars cs ++ '"' :: tail), m⟩ = .ok (cs, ⟨tail, after⟩) := by
  have enough : cs.length < ('"' :: (doubleChars cs ++ '"' :: tail)).length :=
    Nat.lt_succ_of_le (double_length cs _)
  exact quotedWords_double (m := m.next) (words_of_spaces cs) (Nat.succ_ne_zero _) enough

/-! ### Single quotes -/

/-- A word in single quotes, where a quote stands twice. -/
private def twiceQuoted (word : List Char) : List Char :=
  word.flatMap fun x => if x = '\'' then ['\'', '\''] else [x]

private theorem twice_length (word tail : List Char) :
    word.length ≤ (twiceQuoted word ++ tail).length := by
  induction word with
  | nil => exact Nat.zero_le _
  | cons x word ih =>
    simp only [twiceQuoted, List.flatMap_cons, List.length_append, List.length_cons] at ih ⊢
    split <;> simp only [List.length_cons, List.length_nil] <;> omega

section Written
variable {column : Nat} {cs : List Char}

private theorem single_word {word : List Char} (inside : ∀ x ∈ word, isSpacing x = false) :
    singleChars column false (word ++ cs) = twiceQuoted word ++ singleChars column false cs := by
  induction word with
  | nil => rfl
  | cons x word ih =>
    obtain ⟨inWord, later⟩ := List.forall_mem_cons.mp inside
    have noBreak : isBreak x = false := (Bool.or_eq_false_iff.mp inWord).2
    simp [singleChars, noBreak, ih later, twiceQuoted]

private theorem single_spaces (count : Nat) :
    singleChars column false (indentation count ++ cs) =
      indentation count ++ singleChars column false cs := by
  induction count with
  | zero => rfl
  | succ count ih => simp [indentation_succ, singleChars, isBreak, ih]

/-- The line behind a break is indented. -/
private theorem single_resumed (resumes : ∀ x ∈ cs.head?, isBreak x = false) :
    singleChars column true cs = indentation column ++ singleChars column false cs := by
  cases cs with
  | nil => simp [singleChars]
  | cons x cs => simp [singleChars, resumes x rfl]

private theorem single_breaks {x : Char} {breaks : List Char} (broken : ∀ y ∈ x :: breaks, isBreak y = true)
    (resumes : ∀ x ∈ cs.head?, isBreak x = false) (behind : Bool) :
    singleChars column behind (x :: (breaks ++ cs)) =
      x :: (breaks ++ (indentation column ++ singleChars column false cs)) := by
  induction breaks generalizing x behind with
  | nil => simp [singleChars, broken x List.mem_cons_self, single_resumed resumes]
  | cons y breaks ih =>
    obtain ⟨first, later⟩ := List.forall_mem_cons.mp broken
    rw [singleChars, if_pos first, List.cons_append, ih later true]
    rfl

private theorem single_length (behind : Bool) : cs.length ≤ (singleChars column behind cs).length := by
  induction cs generalizing behind with
  | nil => exact Nat.zero_le _
  | cons x cs ih =>
    rw [singleChars]
    split
    · exact Nat.succ_le_succ (ih true)
    · have later := ih false
      split <;> simp only [List.length_append, List.length_cons] <;> split <;>
        simp only [List.length_cons, List.length_nil] <;> omega

end Written

theorem quotedWord_single {word rest fuel : List Char} {m : Mark}
    (inside : ∀ x ∈ word, isSpacing x = false) (ends : EndsWord true rest)
    (enough : word.length ≤ fuel.length) :
    ∃ after, quotedWord true fuel ⟨twiceQuoted word ++ rest, m⟩ = .ok (word, false, ⟨rest, after⟩) ∧
      m.column ≤ after.column := by
  induction word generalizing fuel m with
  | nil => exact ⟨m, quotedWord_end ends, le_rfl⟩
  | cons x word ih =>
    cases fuel with
    | nil => simp at enough
    | cons _ fuel =>
      obtain ⟨inWord, later⟩ := List.forall_mem_cons.mp inside
      have enoughLater : word.length ≤ fuel.length := Nat.le_of_succ_le_succ enough
      by_cases quote : x = '\''
      · subst quote
        obtain ⟨after, read, further⟩ := ih (m := m.forward 2) later enoughLater
        exact ⟨after, quotedWord_twice read, (Nat.le_add_right _ _).trans further⟩
      · obtain ⟨after, read, further⟩ := ih (m := m.next) later enoughLater
        refine ⟨after, ?_, (Nat.le_succ _).trans further⟩
        have written : twiceQuoted (x :: word) = x :: twiceQuoted word := by
          simp [twiceQuoted, quote]
        rw [written]
        exact quotedWord_plain inWord quote (.inl rfl) read

/-- What is written of a text that starts with no gap starts with none. -/
private theorem single_stop {cs : List Char} (resumes : ∀ x ∈ cs.head?, isSpacing x = false)
    (column : Nat) (tail : List Char) :
    (singleChars column false cs ++ '\'' :: tail).head?.any isSpacing = false := by
  cases cs with
  | nil => rfl
  | cons x cs =>
    have inWord := resumes x rfl
    have noBreak : isBreak x = false := (Bool.or_eq_false_iff.mp inWord).2
    by_cases quote : x = '\''
    · subst quote
      rfl
    · simp [singleChars, noBreak, quote, inWord]

private theorem gap_length {gap : List Char} (between : SpaceGap gap ∨ BreakGap gap) :
    0 < gap.length := by
  rcases between with ⟨count, rfl⟩ | ⟨nonempty, _⟩
  · exact Nat.succ_pos _
  · exact List.length_pos_of_ne_nil nonempty

/-- A gap in single quotes: it starts with white space, is taken for what it was, and ends within a
line. -/
private theorem single_gap {gap rest : List Char} {column : Nat}
    (between : SpaceGap gap ∨ BreakGap gap) (noFeed : '\n' ∉ gap) (indented : column ≠ 0)
    (resumes : ∀ x ∈ rest.head?, isSpacing x = false) :
    ∃ x others, singleChars column false (gap ++ rest) =
        x :: (others ++ singleChars column false rest) ∧ isSpacing x = true ∧
      ∀ text m, text.head?.any isSpacing = false → m.column ≠ 0 → ∃ taken after,
        readGap none (x :: (others ++ text)) (.spaces []) ⟨x :: (others ++ text), m⟩ =
          .ok (taken, ⟨text, after⟩) ∧ taken.folded = gap ∧ after.column ≠ 0 := by
  rcases between with ⟨count, rfl⟩ | ⟨nonempty, breaks⟩
  · refine ⟨' ', indentation count, single_spaces (count + 1), rfl, fun text m stop inLine => ?_⟩
    refine ⟨.spaces (indentation (count + 1)), m.forward (count + 1), ?_, rfl, ?_⟩
    · exact @readGap_spaces _ _ m none (count + 1) [] (by simp) stop
    · rw [forward_column]
      omega
  · obtain ⟨x, later, rfl⟩ := List.exists_cons_of_ne_nil nonempty
    have noBreak : ∀ y ∈ rest.head?, isBreak y = false :=
      fun y first => (Bool.or_eq_false_iff.mp (resumes y first)).2
    refine ⟨x, later ++ indentation column, ?_, ?_, fun text m stop inLine => ?_⟩
    · rw [List.cons_append, single_breaks (fun y member => (breaks y member).2) noBreak,
        List.append_assoc]
    · rw [isSpacing, (breaks x List.mem_cons_self).2, Bool.or_true]
    · rw [List.append_assoc]
      have enough : later.length + 1 + column ≤
          (x :: (later ++ (indentation column ++ text))).length := by
        simp only [List.length_cons, List.length_append, indentation_length]
        omega
      obtain ⟨after, read, place⟩ := readGap_breaks (m := m) none breaks enough stop
      refine ⟨_, after, read, ?_, by omega⟩
      have notFeed : x ≠ '\n' := fun feed => noFeed (by simp [feed])
      simp [Gap.folded, notFeed]

theorem quotedWords_single {cs tail fuel : List Char} {column : Nat} {m : Mark}
    (words : Words (isSpacing · = false) (fun gap => SpaceGap gap ∨ BreakGap gap) cs)
    (noFeed : '\n' ∉ cs) (indented : column ≠ 0) (alone : tail.head? ≠ some '\'')
    (inLine : m.column ≠ 0) (enough : cs.length < fuel.length) :
    ∃ after, quotedWords true fuel ⟨singleChars column false cs ++ '\'' :: tail, m⟩ =
      .ok (cs, ⟨tail, after⟩) := by
  induction words generalizing fuel m with
  | @last word inside =>
    cases fuel with
    | nil => simp at enough
    | cons _ fuel =>
      have ends : EndsWord true ('\'' :: tail) := ⟨_, _, rfl, .inr ⟨rfl, fun _ => alone⟩⟩
      have written : singleChars column false word = twiceQuoted word := by
        have line : singleChars column false (word ++ []) = twiceQuoted word ++ singleChars column false [] :=
          single_word inside
        simpa [singleChars] using line
      obtain ⟨after, read, _⟩ := quotedWord_single (m := m) inside ends (twice_length word _)
      rw [written]
      exact ⟨after.next, quotedWords_last inLine (by simp) read⟩
  | @more word gap rest inside between resumes others ih =>
    cases fuel with
    | nil => simp at enough
    | cons _ fuel =>
      have noFeedGap : '\n' ∉ gap := fun feed => noFeed (by simp [feed])
      have noFeedLater : '\n' ∉ rest := fun feed => noFeed (by simp [feed])
      have enoughLater : rest.length < fuel.length := by
        have some := gap_length between
        simp only [List.length_append, List.length_cons] at enough
        omega
      obtain ⟨x, others, written, spacing, gapRead⟩ :=
        single_gap between noFeedGap indented resumes
      rw [single_word inside, written, List.append_assoc, List.cons_append, List.append_assoc]
      have stop := single_stop resumes column tail
      have ends : EndsWord true (x :: (others ++ (singleChars column false rest ++ '\'' :: tail))) :=
        ⟨x, _, rfl, .inl spacing⟩
      obtain ⟨middle, read, further⟩ := quotedWord_single (m := m) inside ends (twice_length word _)
      obtain ⟨taken, place, gap_read, folded, inLineLater⟩ := gapRead _ middle stop (by omega)
      obtain ⟨after, later⟩ := ih noFeedLater inLineLater enoughLater
      refine ⟨after, ?_⟩
      rw [← folded]
      exact quotedWords_more inLine (by simp) read spacing gap_read later

/-- A text without line feeds in which no space stands beside a break is read back from single
quotes, unless another quote follows them. -/
theorem readQuoted_single {cs tail : List Char} {column : Nat} (m : Mark)
    (allowed : singleAllowed cs = true) (noFeed : '\n' ∉ cs) (indented : column ≠ 0)
    (alone : tail.head? ≠ some '\'') :
    ∃ after, readQuoted true ⟨'\'' :: (singleChars column false cs ++ '\'' :: tail), m⟩ =
      .ok (cs, ⟨tail, after⟩) := by
  simp only [singleAllowed, Bool.and_eq_true, Bool.not_eq_true', List.all_eq_true] at allowed
  obtain ⟨⟨printable, before⟩, behind⟩ := allowed
  have enough : cs.length < ('\'' :: (singleChars column false cs ++ '\'' :: tail)).length := by
    have length : cs.length ≤ (singleChars column false cs).length := single_length false
    simp only [List.length_cons, List.length_append]
    omega
  exact quotedWords_single (m := m.next) (words_of_lines printable before behind) noFeed indented
    alone (Nat.succ_ne_zero _) enough

end SemanticLayer.Yaml

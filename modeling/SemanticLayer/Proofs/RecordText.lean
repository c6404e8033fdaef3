import SemanticLayer.Json.Reader
import SemanticLayer.Proofs.CompactText
import SemanticLayer.Proofs.JsonPointer

/-! A record of scalars is read back from its pretty text, with its members in the order of their keys. Each piece
is read whatever follows it, but for a number, which must end: its digits tell what it is, and nothing else tells
where it stops. Main statement: `read_pretty_record`. -/
namespace SemanticLayer.Json

/-! ### White space -/

theorem skip_rest (c : Cursor) : c.skip.rest = c.rest.dropWhile Cursor.isSpace := by
  have spaces (rest : List Char) (line column : Nat) :
      (Cursor.skipSpaces rest line column).rest = rest.dropWhile Cursor.isSpace := by
    induction rest generalizing line column with
    | nil => rfl
    | cons x tail ih =>
      unfold Cursor.skipSpaces
      by_cases space : Cursor.isSpace x = true
      · rw [if_pos space, List.dropWhile_cons_of_pos space]
        split
        · exact ih _ _
        · exact ih _ _
      · rw [if_neg space, List.dropWhile_cons_of_neg space]
  exact spaces _ _ _

theorem newline_blank (level : Nat) (rest : List Char) :
    (newline level ++ rest).dropWhile Cursor.isSpace = rest.dropWhile Cursor.isSpace := by
  refine List.dropWhile_append_of_pos fun x member => ?_
  rcases List.mem_cons.mp member with rfl | indented
  · decide
  · rw [List.eq_of_mem_replicate indented]
    decide

/-! ### Numbers -/

/-- What follows a number does not go on with it. -/
def EndsNumber (rest : List Char) : Prop :=
  ∀ x ∈ rest.head?, x.isDigit = false ∧ x ≠ '.' ∧ x ≠ 'e' ∧ x ≠ 'E'

section Numbers
variable {digits rest : List Char} {value n : Nat} {negative : Bool} {c : Cursor}

/-- The number that digits make of the one before them. -/
def decimal (value : Nat) (digits : List Char) : Nat := digits.foldl (fun n x => n * 10 + (x.toNat - 48)) value

theorem le_decimal : value ≤ decimal value digits := by
  induction digits generalizing value with
  | nil => exact Nat.le_refl _
  | cons x digits ih =>
    calc value ≤ value * 10 + (x.toNat - 48) := by omega
      _ ≤ decimal value (x :: digits) := ih

theorem integerDigits_read (value : Nat) (all : ∀ x ∈ digits, x.isDigit = true) (ends : EndsNumber rest)
    (fits : decimal value digits ≤ maxUnsigned) (stands : c.rest = digits ++ rest) :
    ∃ after, integerDigits (digits ++ rest) value c = (decimal value digits, true, after) ∧ after.rest = rest := by
  induction digits generalizing value c with
  | nil =>
    refine ⟨c, ?_, stands⟩
    cases rest with
    | nil => rfl
    | cons x rest =>
      have other : x.isDigit = false := (ends x rfl).1
      simp [integerDigits, digit?, other, decimal]
  | cons x digits ih =>
    obtain ⟨digit, others⟩ := List.forall_mem_cons.mp all
    have next : value * 10 + (x.toNat - 48) ≤ maxUnsigned := Nat.le_trans le_decimal fits
    obtain ⟨after, read, remains⟩ := ih (value * 10 + (x.toNat - 48)) (c := c.step) others fits (by simp [stands])
    refine ⟨after, ?_, remains⟩
    have more : decimal value (x :: digits) = decimal (value * 10 + (x.toNat - 48)) digits := rfl
    simpa [integerDigits, digit?, digit, next, more] using read

theorem decimal_toDigits (n : Nat) : decimal 0 (Nat.toDigits 10 n) = n := by
  have read : (Nat.toDigits 10 n).foldl (fun n x => 10 * n + (x.toNat - 48)) 0 = n :=
    Nat.ofDigitChars_toDigits (by decide) (by decide)
  simpa only [decimal, Nat.mul_comm 10] using read

theorem toDigits_first (n : Nat) : ∃ x digits, Nat.toDigits 10 n = x :: digits ∧ x.isDigit = true := by
  cases written : Nat.toDigits 10 n with
  | nil => exact absurd written Nat.toDigits_ne_nil
  | cons x digits =>
    exact ⟨x, digits, rfl,
      Nat.isDigit_of_mem_toDigits (by decide) (by decide) (written ▸ List.mem_cons_self)⟩

/-- A number is read from its digits. -/
theorem readNumeral_digits (negative : Bool) (ends : EndsNumber rest) (fits : n ≤ maxUnsigned)
    (stands : c.rest = Nat.toDigits 10 n ++ rest) :
    ∃ after, readNumeral negative c = afterInteger negative n true after ∧ after.rest = rest := by
  have number := decimal_toDigits n
  have all : ∀ x ∈ Nat.toDigits 10 n, x.isDigit = true := fun x member =>
    Nat.isDigit_of_mem_toDigits (by decide) (by decide) member
  cases written : Nat.toDigits 10 n with
  | nil => exact absurd written Nat.toDigits_ne_nil
  | cons x digits =>
    rw [written] at stands number all
    obtain ⟨digit, others⟩ := List.forall_mem_cons.mp all
    by_cases zero : x = '0'
    · -- Only zero itself starts with a zero, so that no other digit may follow.
      obtain rfl : n = 0 := Pointer.toDigits_head (by rw [written, zero]; rfl)
      obtain rfl : digits = [] := by
        have single : Nat.toDigits 10 0 = ['0'] := by decide
        rw [single] at written
        exact (List.cons.inj written).2.symm
      refine ⟨c.step, ?_, by simp [stands]⟩
      have value : digit? '0' = some 0 := by decide
      unfold readNumeral
      rw [stands, zero]
      cases rest with
      | nil => simp [value]
      | cons y rest => simp [value, (ends y rfl).1]
    · have positive : x.toNat - 48 ≠ 0 := by
        intro none
        have low : 48 ≤ x.toNat := (Char.isDigit_iff_toNat.mp digit).1
        have code : x.toNat = 48 := by omega
        exact zero (Char.toNat_inj.mp code)
      have value : decimal (x.toNat - 48) digits = n := by simpa [decimal] using number
      obtain ⟨after, read, remains⟩ := integerDigits_read (x.toNat - 48) (c := c.step) others ends
        (value ▸ fits) (by simp [stands])
      refine ⟨after, ?_, remains⟩
      unfold readNumeral
      rw [stands]
      simp [digit?, digit, read, value]

theorem afterInteger_ends (ends : EndsNumber c.rest) : afterInteger negative n true c =
    if negative then
      if n = 0 ∨ Nat.pow 2 63 < n then .ok (.double ((Binary64.ofRatio? true n 1).getD default), c)
      else .ok (.negative n, c)
    else .ok (.unsigned n, c) := by
  unfold afterInteger
  rw [if_pos rfl]
  split
  · rename_i point
    exact absurd rfl (ends '.' (by simp [point])).2.1
  · rename_i exponent
    exact absurd rfl (ends 'e' (by simp [exponent])).2.2.1
  · rename_i exponent
    exact absurd rfl (ends 'E' (by simp [exponent])).2.2.2
  · rfl

end Numbers

/-! ### Scalars -/

/-- Neither a list nor an object, and no number but an integer of 64 bits. -/
inductive Scalar : Json → Prop
  | null : Scalar .null
  | bool (b : Bool) : Scalar (.bool b)
  | int {n : Int} (low : -(2 ^ 63) ≤ n) (high : n < 2 ^ 64) : Scalar (.int n)
  | str (s : String) : Scalar (.str s)

section Scalars
variable {v : Json} {rest : List Char} {fuel depth : Nat} {c : Cursor}

theorem nat_text (n : Nat) : scalarText (.int (Int.ofNat n)) = Nat.toDigits 10 n := by
  show (toString n).toList = _
  rw [Nat.toString_eq_repr, Nat.toList_repr]

theorem negative_text (n : Nat) : scalarText (.int (Int.negSucc n)) = '-' :: Nat.toDigits 10 (n + 1) := by
  show ("-" ++ (n + 1).repr).toList = _
  rw [String.toList_append, Nat.toList_repr]
  rfl

theorem digit_not_space {x : Char} (digit : x.isDigit = true) : Cursor.isSpace x = false := by
  have other : x ≠ ' ' ∧ x ≠ '\n' ∧ x ≠ '\t' ∧ x ≠ '\r' := by
    refine ⟨?_, ?_, ?_, ?_⟩ <;> rintro rfl <;> cases digit
  simp [Cursor.isSpace, other]

/-- A scalar starts with a character that is no white space. -/
theorem scalar_first (scalar : Scalar v) :
    ∃ x text, scalarText v = x :: text ∧ Cursor.isSpace x = false := by
  cases scalar with
  | null => exact ⟨_, _, rfl, by decide⟩
  | bool b => cases b <;> exact ⟨_, _, rfl, by decide⟩
  | str s => exact ⟨_, _, rfl, by decide⟩
  | @int n low high =>
    cases n with
    | negSucc n => exact ⟨_, _, negative_text n, by decide⟩
    | ofNat n =>
      obtain ⟨x, digits, written, digit⟩ := toDigits_first n
      exact ⟨x, digits, by rw [nat_text, written], digit_not_space digit⟩

theorem word_read (letters : List Char) (stands : c.rest = letters ++ rest) :
    ∃ after, c.word letters = .ok after ∧ after.rest = rest := by
  induction letters generalizing c with
  | nil => exact ⟨c, rfl, stands⟩
  | cons letter letters ih =>
    obtain ⟨after, read, remains⟩ := ih (c := c.step) (by simp [stands])
    exact ⟨after, by simpa [Cursor.word, stands] using read, remains⟩

theorem readValue_digit {x : Char} (digit : x.isDigit = true) (stands : c.skip.rest = x :: rest) :
    readValue (fuel + 1) depth c = (readNumeral false c.skip).map fun (n, c) => (ofNumeral n, c) := by
  have other : x ≠ 'n' ∧ x ≠ 't' ∧ x ≠ 'f' ∧ x ≠ '-' ∧ x ≠ '"' ∧ x ≠ '[' ∧ x ≠ '{' := by
    refine ⟨?_, ?_, ?_, ?_, ?_, ?_, ?_⟩ <;> rintro rfl <;> cases digit
  unfold readValue
  simp only [stands]
  cases readNumeral false c.skip <;> simp [other, digit, bind, Except.bind, pure, Except.pure, Except.map]

/-- A scalar is read from its text. -/
theorem readValue_scalar (fuel depth : Nat) (scalar : Scalar v) (ends : EndsNumber rest)
    (stands : c.skip.rest = scalarText v ++ rest) :
    ∃ after, readValue (fuel + 1) depth c = .ok (v, after) ∧ after.rest = rest := by
  have word (letters : List Char) (behind : c.skip.step.rest = letters ++ rest) := word_read letters behind
  cases scalar with
  | null =>
    obtain ⟨after, read, remains⟩ := word ['u', 'l', 'l'] (by simp [stands, scalarText])
    exact ⟨after, by simp [readValue, stands, scalarText, read, bind, Except.bind, pure, Except.pure], remains⟩
  | bool b =>
    cases b with
    | true =>
      obtain ⟨after, read, remains⟩ := word ['r', 'u', 'e'] (by simp [stands, scalarText])
      exact ⟨after, by simp [readValue, stands, scalarText, read, bind, Except.bind, pure, Except.pure], remains⟩
    | false =>
      obtain ⟨after, read, remains⟩ := word ['a', 'l', 's', 'e'] (by simp [stands, scalarText])
      exact ⟨after, by simp [readValue, stands, scalarText, read, bind, Except.bind, pure, Except.pure], remains⟩
  | @int n low high =>
    cases n with
    | ofNat n =>
      rw [nat_text] at stands
      have fits : n ≤ maxUnsigned := by
        have most : maxUnsigned = 18446744073709551615 := rfl
        have below : (n : Int) < 2 ^ 64 := high
        omega
      obtain ⟨after, read, remains⟩ := readNumeral_digits false ends fits stands
      obtain ⟨x, digits, written, digit⟩ := toDigits_first n
      rw [afterInteger_ends (remains ▸ ends), if_neg (by decide)] at read
      rw [written, List.cons_append] at stands
      exact ⟨after, by rw [readValue_digit digit stands, read]; rfl, remains⟩
    | negSucc n =>
      rw [negative_text] at stands
      have least : n + 1 ≤ 2 ^ 63 := by omega
      have fits : n + 1 ≤ maxUnsigned := by
        have most : maxUnsigned = 18446744073709551615 := rfl
        omega
      obtain ⟨after, read, remains⟩ := readNumeral_digits true (c := c.skip.step) ends fits
        (by simp [stands])
      have inRange : ¬ (n + 1 = 0 ∨ Nat.pow 2 63 < n + 1) := by
        have power : Nat.pow 2 63 = 2 ^ 63 := rfl
        omega
      rw [afterInteger_ends (remains ▸ ends), if_pos rfl, if_neg inRange] at read
      refine ⟨after, ?_, remains⟩
      simp [readValue, stands, read, ofNumeral, bind, Except.bind, pure, Except.pure, Int.negSucc_eq]
  | str s =>
    obtain ⟨after, read, remains⟩ := quote_read s rest c.skip stands
    have front : c.skip.rest = '"' :: (s.toList.flatMap escapeChar ++ '"' :: rest) := by
      simp [stands, scalarText, quote]
    exact ⟨after, by simp [readValue, front, read, bind, Except.bind, pure, Except.pure], remains⟩

end Scalars

/-! ### Records -/

/-- A member of a record on a line of its own. -/
def memberLine (m : String × Json) : List Char := newline 1 ++ quote m.1 ++ ':' :: ' ' :: scalarText m.2

section Records
variable {members : List (String × Json)} {m : String × Json} {rest closing : List Char} {fuel depth : Nat}
  {c : Cursor}

theorem prettyChars_scalar {v : Json} (scalar : Scalar v) : prettyChars level v = scalarText v := by
  cases scalar <;> simp [prettyChars]

theorem prettyMembers_eq (scalars : ∀ m ∈ members, Scalar m.2) :
    prettyMembers 1 members = separated memberLine members := by
  induction members with
  | nil => rfl
  | cons m members ih =>
    obtain ⟨k, v⟩ := m
    obtain ⟨scalar, others⟩ := List.forall_mem_cons.mp scalars
    have value : prettyChars 1 v = scalarText v := prettyChars_scalar scalar
    cases members with
    | nil => simp [prettyMembers, separated, memberLine, value]
    | cons n members =>
      rw [prettyMembers, ih others, value]
      · simp [separated, memberLine]
      · simp

/-- A member is read from its line. -/
theorem member_read (fuel depth : Nat) (scalar : Scalar m.2) (ends : EndsNumber rest)
    (stands : c.rest = quote m.1 ++ ':' :: ' ' :: scalarText m.2 ++ rest) :
    ∃ key value after, readString c.step = .ok (m.1, key) ∧ colon key = .ok value ∧
      readValue (fuel + 1) depth value = .ok (m.2, after) ∧ after.rest = rest := by
  obtain ⟨key, read, behind⟩ := quote_read m.1 (':' :: ' ' :: scalarText m.2 ++ rest) c (by simp [stands])
  have colonStands : key.skip.rest = ':' :: ' ' :: (scalarText m.2 ++ rest) := by
    rw [skip_rest, behind]
    rfl
  have valueStands : key.skip.step.skip.rest = scalarText m.2 ++ rest := by
    obtain ⟨x, text, written, shown⟩ := scalar_first scalar
    rw [skip_rest, step_rest, colonStands, written]
    simp [shown, show Cursor.isSpace ' ' = true by decide]
  obtain ⟨after, readBack, remains⟩ := readValue_scalar fuel depth scalar ends valueStands
  exact ⟨key, key.skip.step, after, read, by simp [colon, colonStands], readBack, remains⟩

theorem memberLine_blank (m : String × Json) (behind : List Char) :
    (memberLine m ++ behind).dropWhile Cursor.isSpace =
      quote m.1 ++ ':' :: ' ' :: scalarText m.2 ++ behind := by
  rw [memberLine, List.append_assoc, List.append_assoc, newline_blank, List.append_assoc]
  rfl

theorem endsNumber_lines (next : EndsNumber closing) :
    EndsNumber ((members.flatMap fun m => ',' :: memberLine m) ++ closing) := by
  cases members with
  | nil => exact next
  | cons m members =>
    intro x first
    obtain rfl : x = ',' := by simpa using first.symm
    decide

theorem readMembers_end {first : Bool} (stands : c.skip.rest = '}' :: rest) :
    readMembers (fuel + 1) depth first c = .ok ([], c.skip.step) := by
  simp [readMembers, nextMember, stands, bind, Except.bind, pure, Except.pure]

theorem nextMember_first (stands : c.skip.rest = '"' :: rest) : nextMember true c = .ok (true, c.skip) := by
  simp [nextMember, stands]

theorem nextMember_further (stands : c.skip.rest = ',' :: rest) {behind : List Char}
    (key : rest.dropWhile Cursor.isSpace = '"' :: behind) :
    nextMember false c = .ok (true, c.skip.step.skip) := by
  have keyStands : c.skip.step.skip.rest = '"' :: behind := by
    rw [skip_rest, step_rest, stands]
    exact key
  simp [nextMember, stands, keyStands]

/-- A member and then further ones are read where a member stands. -/
theorem readMembers_cons {first : Bool} {start : Cursor} {behind : List Char} (scalar : Scalar m.2)
    (ends : EndsNumber behind) (here : nextMember first c = .ok (true, start))
    (stands : start.rest = quote m.1 ++ ':' :: ' ' :: scalarText m.2 ++ behind)
    (further : ∀ d : Cursor, d.rest = behind →
      ∃ after, readMembers (fuel + 1) depth false d = .ok (members, after) ∧ after.rest = rest) :
    ∃ after, readMembers (fuel + 2) depth first c = .ok (m :: members, after) ∧ after.rest = rest := by
  obtain ⟨key, value, next, keyRead, colonRead, valueRead, remains⟩ :=
    member_read fuel depth scalar ends stands
  obtain ⟨after, membersRead, closed⟩ := further next remains
  refine ⟨after, ?_, closed⟩
  rw [readMembers]
  simp [here, keyRead, colonRead, valueRead, membersRead, bind, Except.bind, pure, Except.pure]

/-- The members behind the first one are read up to the end of the record. -/
theorem readMembers_further (scalars : ∀ m ∈ members, Scalar m.2) (next : EndsNumber closing)
    (closes : closing.dropWhile Cursor.isSpace = '}' :: rest) (enough : members.length ≤ fuel)
    (stands : c.rest = (members.flatMap fun m => ',' :: memberLine m) ++ closing) :
    ∃ after, readMembers (fuel + 1) depth false c = .ok (members, after) ∧ after.rest = rest := by
  induction members generalizing fuel c with
  | nil =>
    have front : c.skip.rest = '}' :: rest := by
      rw [skip_rest, stands]
      exact closes
    exact ⟨c.skip.step, readMembers_end front, by simp [front]⟩
  | cons m members ih =>
    obtain ⟨fuel, rfl⟩ : ∃ n, fuel = n + 1 := ⟨fuel - 1, by simp at enough; omega⟩
    obtain ⟨scalar, others⟩ := List.forall_mem_cons.mp scalars
    have comma : c.skip.rest =
        ',' :: (memberLine m ++ ((members.flatMap fun m => ',' :: memberLine m) ++ closing)) := by
      rw [skip_rest, stands, List.flatMap_cons, List.append_assoc]
      rfl
    have line := memberLine_blank m ((members.flatMap fun m => ',' :: memberLine m) ++ closing)
    have start : c.skip.step.skip.rest = quote m.1 ++ ':' :: ' ' :: scalarText m.2 ++
        ((members.flatMap fun m => ',' :: memberLine m) ++ closing) := by
      rw [skip_rest, step_rest, comma]
      exact line
    exact readMembers_cons scalar (endsNumber_lines next) (nextMember_further comma line) start
      fun d => ih others (by simpa using enough)

/-- The members of a record are read up to its end. -/
theorem readMembers_all (fuel depth : Nat) (scalars : ∀ m ∈ members, Scalar m.2) (enough : members.length ≤ fuel)
    (stands : c.rest = prettyChars 0 (.obj members) ++ rest) :
    ∃ after, readMembers (fuel + 1) depth true c.step = .ok (members, after) ∧ after.rest = rest := by
  cases members with
  | nil =>
    have front : c.step.skip.rest = '}' :: rest := by
      rw [skip_rest, step_rest, stands]
      rfl
    exact ⟨c.step.skip.step, readMembers_end front, by simp [front]⟩
  | cons m members =>
    obtain ⟨fuel, rfl⟩ : ∃ n, fuel = n + 1 := ⟨fuel - 1, by simp at enough; omega⟩
    obtain ⟨scalar, others⟩ := List.forall_mem_cons.mp scalars
    have closes : (newline 0 ++ '}' :: rest).dropWhile Cursor.isSpace = '}' :: rest := newline_blank 0 _
    have start : c.step.skip.rest = quote m.1 ++ ':' :: ' ' :: scalarText m.2 ++
        ((members.flatMap fun m => ',' :: memberLine m) ++ (newline 0 ++ '}' :: rest)) := by
      rw [skip_rest, step_rest, stands, prettyChars, prettyMembers_eq scalars, ← memberLine_blank]
      · simp [separated]
      · exact List.cons_ne_nil _ _
    have ends : EndsNumber (newline 0 ++ '}' :: rest) := by
      intro x first
      obtain rfl : x = '\n' := by simpa [newline] using first.symm
      decide
    refine readMembers_cons scalar (endsNumber_lines ends) (nextMember_first (by simpa [quote] using start)) start
      fun d => readMembers_further others ends closes (by simpa using enough)

/-- There is a comma between neighbours. -/
theorem length_separated (write : α → List Char) (xs : List α) :
    xs.length ≤ (separated write xs).length + 1 := by
  have commas (xs : List α) : xs.length ≤ (xs.flatMap fun x => ',' :: write x).length := by
    induction xs with
    | nil => exact Nat.le_refl _
    | cons x xs ih =>
      simp only [List.flatMap_cons, List.length_append, List.length_cons]
      omega
  cases xs with
  | nil => exact Nat.zero_le _
  | cons x xs =>
    have rest := commas xs
    simp only [separated, List.length_append, List.length_cons]
    omega

theorem length_record (scalars : ∀ m ∈ members, Scalar m.2) :
    members.length ≤ (prettyChars 0 (.obj members)).length := by
  cases members with
  | nil => exact Nat.zero_le _
  | cons m members =>
    have lines := length_separated memberLine (m :: members)
    rw [prettyChars, prettyMembers_eq scalars]
    · simp only [List.length_append, List.length_cons] at lines ⊢
      omega
    · exact List.cons_ne_nil _ _

/-- A record of scalars is read back from its pretty text, whatever white space follows. -/
theorem read_pretty_record (members : List (String × Json)) (rest : List Char)
    (scalars : ∀ m ∈ members, Scalar m.2) (blank : ∀ x ∈ rest, Cursor.isSpace x = true) :
    read ((Json.obj members).pretty ++ String.ofList rest) = .ok (object members) := by
  have text : ((Json.obj members).pretty ++ String.ofList rest).toList = prettyChars 0 (.obj members) ++ rest := by
    rw [String.toList_append, pretty, String.toList_ofList, String.toList_ofList]
  have opens : ∃ tail, prettyChars 0 (.obj members) = '{' :: tail := by
    cases members with
    | nil => exact ⟨_, rfl⟩
    | cons m members => exact ⟨_, rfl⟩
  obtain ⟨tail, opens⟩ := opens
  let c : Cursor := .start (prettyChars 0 (.obj members) ++ rest)
  have first : c.skip.rest = prettyChars 0 (.obj members) ++ rest := by
    rw [skip_rest]
    show (prettyChars 0 (.obj members) ++ rest).dropWhile Cursor.isSpace = _
    rw [opens]
    rfl
  obtain ⟨after, read, remains⟩ := readMembers_all (2 * c.rest.length) 127 scalars
    (by
      have length := length_record scalars
      simp only [c, Cursor.start, List.length_append]
      omega) first
  have value : readValue (2 * c.rest.length + 2) depthLimit c = .ok (object members, after) := by
    rw [opens] at first
    simp [readValue, first, enter, depthLimit, read, bind, Except.bind, pure, Except.pure]
  have ends : endOfText after = .ok () := by
    have nothing : after.skip.rest = [] := by
      rw [skip_rest, remains]
      exact List.dropWhile_eq_nil_iff.mpr blank
    simp [endOfText, nothing]
  unfold Json.read
  rw [text]
  simp only [c] at value
  simp [value, ends, bind, Except.bind, pure, Except.pure]

end Records
end SemanticLayer.Json

import Mathlib
import SemanticLayer.Json.Cursor
import SemanticLayer.Json.Writer

/-! The compact text of a JSON value without numbers tells where it ends and which value it is,
whatever text follows. A quoted string is handled by reading it back. -/
namespace SemanticLayer.Json

/-! ### Strings -/

@[simp] theorem step_rest (c : Cursor) : c.step.rest = c.rest.tail := by
  unfold Cursor.step
  split <;> simp_all

private theorem hex_digit_read : ∀ n < 16, hexValue? (hexDigit n) = some n := by decide

/-- A control character comes back from the four digits of its escape. -/
private theorem unicode_escape_read {x : Char} (control : x.toNat < 0x20) (rest : List Char)
    (c : Cursor) (stands : c.rest =
      '0' :: '0' :: hexDigit (x.toNat / 16) :: hexDigit (x.toNat % 16) :: rest) :
    ∃ after, unicodeEscape c = .ok (x, after) ∧ after.rest = rest := by
  have high := hex_digit_read (x.toNat / 16) (by omega)
  have low := hex_digit_read (x.toNat % 16) (by omega)
  have zero : hexValue? '0' = some 0 := by decide
  have value : ((0 * 16 + 0) * 16 + x.toNat / 16) * 16 + x.toNat % 16 = x.toNat := by omega
  have digits : hexEscape c = .ok (x.toNat, c.step.step.step.step) := by
    simp only [hexEscape, stands, zero, high, low, value]
  refine ⟨c.step.step.step.step, ?_, by simp [stands]⟩
  have below : ¬ (0xDC00 ≤ x.toNat ∧ x.toNat ≤ 0xDFFF) := by omega
  have single : x.toNat < 0xD800 ∨ 0xDBFF < x.toNat := by omega
  simp [unicodeEscape, digits, below, single, bind, Except.bind, pure, Except.pure]

/-- Characters that stand for themselves inside a string. -/
def Plain (x : Char) : Prop := x ≠ '"' ∧ x ≠ '\\' ∧ 0x20 ≤ x.toNat

theorem escape_plain {x : Char} (plain : Plain x) : escapeChar x = [x] := by
  have printable : ¬ x.toNat < 0x20 := by have := plain.2.2; omega
  simp [escapeChar, plain.1, plain.2.1, printable]

private theorem char_of_toNat {x : Char} {n : Nat} (code : x.toNat = n) : x = Char.ofNat n := by
  rw [← code, Char.ofNat_toNat]

private theorem letter_read {x letter : Char} {rest : List Char}
    (known : ∀ c : Cursor, c.rest = letter :: rest → readEscape c = .ok (x, c.step)) :
    ∃ tail, ['\\', letter] ++ rest = '\\' :: tail ∧
      ∀ c : Cursor, c.rest = tail → ∃ after, readEscape c = .ok (x, after) ∧ after.rest = rest :=
  ⟨letter :: rest, rfl, fun c stands => ⟨c.step, known c stands, by simp [stands]⟩⟩

/-- Every other character is written as a backslash and what `readEscape` takes for it. -/
theorem escape_read {x : Char} (special : ¬ Plain x) (rest : List Char) :
    ∃ tail, escapeChar x ++ rest = '\\' :: tail ∧
      ∀ c : Cursor, c.rest = tail → ∃ after, readEscape c = .ok (x, after) ∧ after.rest = rest := by
  unfold escapeChar
  split
  · rename_i quote
    exact letter_read fun c stands => by simp [readEscape, stands, quote]
  split
  · rename_i backslash
    exact letter_read fun c stands => by simp [readEscape, stands, backslash]
  split
  · rename_i control
    split
    · rename_i line
      exact letter_read fun c stands => by simp [readEscape, stands, line]
    split
    · rename_i carriage
      exact letter_read fun c stands => by simp [readEscape, stands, carriage]
    split
    · rename_i tab
      exact letter_read fun c stands => by simp [readEscape, stands, tab]
    split
    · rename_i code
      have backspace : x = '\x08' := char_of_toNat code
      exact letter_read fun c stands => by simp [readEscape, stands, backspace]
    split
    · rename_i code
      have formFeed : x = '\x0c' := char_of_toNat code
      exact letter_read fun c stands => by simp [readEscape, stands, formFeed]
    · refine ⟨'u' :: '0' :: '0' :: hexDigit (x.toNat / 16) :: hexDigit (x.toNat % 16) :: rest, rfl,
        fun c stands => ?_⟩
      obtain ⟨after, read, remains⟩ := unicode_escape_read control rest c.step (by simp [stands])
      exact ⟨after, by simpa [readEscape, stands] using read, remains⟩
  · rename_i notQuote notBackslash printable
    exact absurd ⟨notQuote, notBackslash, by omega⟩ special

/-- What stands between the quotes of a written string is read back up to the closing quote. -/
theorem string_chars_read (chars rest fuel : List Char) (c : Cursor)
    (stands : c.rest = chars.flatMap escapeChar ++ '"' :: rest) (enough : chars.length < fuel.length) :
    ∃ after, stringChars fuel c = .ok (chars, after) ∧ after.rest = rest := by
  induction chars generalizing fuel c with
  | nil =>
    cases fuel with
    | nil => simp at enough
    | cons _ fuel => exact ⟨c.step, by simp_all [stringChars], by simp_all⟩
  | cons x chars ih =>
    cases fuel with
    | nil => simp at enough
    | cons _ fuel =>
      rw [List.flatMap_cons, List.append_assoc] at stands
      by_cases plain : Plain x
      · rw [escape_plain plain, List.singleton_append] at stands
        obtain ⟨after, read, remains⟩ := ih fuel c.step (by simp [stands]) (by simpa using enough)
        have printable : ¬ x.toNat < 0x20 := by have := plain.2.2; omega
        refine ⟨after, ?_, remains⟩
        unfold stringChars
        split
        · simp_all
        · rename_i quoted
          exact absurd (List.cons.inj (stands.symm.trans quoted)).1 plain.1
        · rename_i escaped
          exact absurd (List.cons.inj (stands.symm.trans escaped)).1 plain.2.1
        · simp_all [bind, Except.bind, pure, Except.pure]
      · obtain ⟨tail, written, readBack⟩ := escape_read plain (chars.flatMap escapeChar ++ '"' :: rest)
        rw [written] at stands
        obtain ⟨middle, escape, follows⟩ := readBack c.step (by simp [stands])
        obtain ⟨after, read, remains⟩ := ih fuel middle follows (by simpa using enough)
        exact ⟨after, by simp [stringChars, stands, escape, read, bind, Except.bind, pure, Except.pure],
          remains⟩

private theorem escape_char_nonempty (x : Char) : 1 ≤ (escapeChar x).length := by
  by_cases plain : Plain x
  · simp [escape_plain plain]
  · obtain ⟨tail, written, _⟩ := escape_read plain []
    simp only [List.append_nil] at written
    simp [written]

/-- A written string is read back, whatever follows it. -/
theorem quote_read (s : String) (rest : List Char) (c : Cursor) (stands : c.rest = quote s ++ rest) :
    ∃ after, readString c.step = .ok (s, after) ∧ after.rest = rest := by
  have inside : c.step.rest = s.toList.flatMap escapeChar ++ '"' :: rest := by
    simp [stands, quote]
  have enough : s.toList.length < c.step.rest.length := by
    have longer : s.toList.length ≤ (s.toList.flatMap escapeChar).length := by
      rw [List.length_flatMap]
      calc s.toList.length = (s.toList.map fun _ => 1).sum := by simp
        _ ≤ _ := List.sum_le_sum fun x _ => escape_char_nonempty x
    rw [inside, List.length_append, List.length_cons]
    omega
  obtain ⟨after, read, remains⟩ := string_chars_read _ rest _ _ inside enough
  exact ⟨after, by simp only [readString, read, bind, Except.bind, pure, Except.pure,
    String.ofList_toList], remains⟩

/-- A written string tells where it ends. -/
theorem quote_delimits {s t : String} {r u : List Char} (same : quote s ++ r = quote t ++ u) :
    s = t ∧ r = u := by
  let c : Cursor := .start (quote s ++ r)
  obtain ⟨left, leftRead, leftRest⟩ := quote_read s r c rfl
  obtain ⟨right, rightRead, rightRest⟩ := quote_read t u c same
  rw [leftRead] at rightRead
  obtain ⟨rfl, rfl⟩ := Prod.mk.inj (Except.ok.inj rightRead)
  exact ⟨rfl, leftRest.symm.trans rightRest⟩

/-! ### Sequences -/

section Sequences
variable {write : α → List Char} {stop : Char} {xs ys : List α} {r u : List Char}

/-- Written members with a comma between neighbours, as arrays and objects hold them. -/
def separated (write : α → List Char) : List α → List Char
  | [] => []
  | x :: rest => write x ++ rest.flatMap fun y => ',' :: write y

/-- Members that tell where they end, and do not start like the end of the sequence. -/
def Delimited (write : α → List Char) (stop : Char) (xs ys : List α) : Prop :=
  (∀ x ∈ xs, ∀ y ∈ ys, ∀ r u, write x ++ r = write y ++ u → x = y ∧ r = u) ∧
  (∀ x, x ∈ xs ∨ x ∈ ys → ∀ r u, write x ++ r ≠ stop :: u)

private theorem delimited_tail {x y : α} (delimited : Delimited write stop (x :: xs) (y :: ys)) :
    Delimited write stop xs ys :=
  ⟨fun a left b right => delimited.1 a (.tail _ left) b (.tail _ right),
    fun a member => delimited.2 a (member.imp (.tail _) (.tail _))⟩

private theorem tail_delimits (notComma : stop ≠ ',') (delimited : Delimited write stop xs ys)
    (same : (xs.flatMap fun x => ',' :: write x) ++ stop :: r =
      (ys.flatMap fun y => ',' :: write y) ++ stop :: u) : xs = ys ∧ r = u := by
  induction xs generalizing ys with
  | nil =>
    cases ys with
    | nil => simpa using same
    | cons y ys => exact absurd (by simpa using same : stop = ',' ∧ _).1 notComma
  | cons x xs ih =>
    cases ys with
    | nil => exact absurd (by simpa using same : ',' = stop ∧ _).1.symm notComma
    | cons y ys =>
      simp only [List.flatMap_cons, List.cons_append, List.append_assoc, List.cons.injEq,
        true_and] at same
      obtain ⟨rfl, rest⟩ := delimited.1 x (by simp) y (by simp) _ _ same
      obtain ⟨rfl, rfl⟩ := ih (delimited_tail delimited) rest
      exact ⟨rfl, rfl⟩

/-- A sequence of such members that is closed by `stop` tells where it ends. -/
theorem separated_delimits (notComma : stop ≠ ',') (delimited : Delimited write stop xs ys)
    (same : separated write xs ++ stop :: r = separated write ys ++ stop :: u) :
    xs = ys ∧ r = u := by
  cases xs with
  | nil =>
    cases ys with
    | nil => simpa [separated] using same
    | cons y ys =>
      simp only [separated, List.nil_append, List.append_assoc] at same
      exact absurd same.symm (delimited.2 y (by simp) _ _)
  | cons x xs =>
    cases ys with
    | nil =>
      simp only [separated, List.nil_append, List.append_assoc] at same
      exact absurd same (delimited.2 x (by simp) _ _)
    | cons y ys =>
      simp only [separated, List.append_assoc] at same
      obtain ⟨rfl, rest⟩ := delimited.1 x (by simp) y (by simp) _ _ same
      obtain ⟨rfl, rfl⟩ := tail_delimits notComma (delimited_tail delimited) rest
      exact ⟨rfl, rfl⟩

end Sequences

/-! ### Values -/

/-- How a member of an object is written. -/
def memberChars (m : String × Json) : List Char := quote m.1 ++ ':' :: compactChars m.2

theorem compactItems_eq (items : List Json) : compactItems items = separated compactChars items := by
  induction items with
  | nil => rfl
  | cons v rest ih =>
    cases rest with
    | nil => simp [compactItems, separated]
    | cons w rest => simp_all [compactItems, separated]

theorem compactMembers_eq (members : List (String × Json)) :
    compactMembers members = separated memberChars members := by
  induction members with
  | nil => rfl
  | cons m rest ih =>
    obtain ⟨k, v⟩ := m
    cases rest with
    | nil => simp [compactMembers, separated, memberChars]
    | cons n rest => simp_all [compactMembers, separated, memberChars]

/-- No number occurs in the value. -/
inductive Numberless : Json → Prop
  | null : Numberless .null
  | bool (b : Bool) : Numberless (.bool b)
  | str (s : String) : Numberless (.str s)
  | arr {items : List Json} : (∀ v ∈ items, Numberless v) → Numberless (.arr items)
  | obj {members : List (String × Json)} :
      (∀ m ∈ members, Numberless m.2) → Numberless (.obj members)

attribute [simp] Numberless.null Numberless.bool Numberless.str

@[simp] theorem numberless_arr {items : List Json} :
    Numberless (.arr items) ↔ ∀ v ∈ items, Numberless v :=
  ⟨fun plain => by cases plain; assumption, .arr⟩

@[simp] theorem numberless_obj {members : List (String × Json)} :
    Numberless (.obj members) ↔ ∀ m ∈ members, Numberless m.2 :=
  ⟨fun plain => by cases plain; assumption, .obj⟩

/-- A value starts with a letter, a quote or an opening bracket. -/
private theorem numberless_head {v : Json} (plain : Numberless v) :
    ∃ x rest, compactChars v = x :: rest ∧ x ∈ ['n', 't', 'f', '"', '[', '{'] := by
  cases plain with
  | null => exact ⟨_, _, rfl, by simp⟩
  | bool b => cases b <;> exact ⟨_, _, rfl, by simp⟩
  | str s => exact ⟨_, _, rfl, by simp⟩
  | arr _ => exact ⟨_, _, rfl, by simp⟩
  | obj _ => exact ⟨_, _, rfl, by simp⟩

/-- The compact text of a value without numbers tells where it ends. -/
theorem compact_delimits {v w : Json} {r u : List Char} (plain : Numberless v) (other : Numberless w)
    (same : compactChars v ++ r = compactChars w ++ u) : v = w ∧ r = u := by
  induction plain generalizing w r u with
  | null => cases other with
    | null => simpa [compactChars] using same
    | bool b => cases b <;> simp [compactChars, scalarText] at same
    | _ => simp [compactChars, scalarText, quote] at same
  | bool b => cases other with
    | bool c => cases b <;> cases c <;> simp_all [compactChars, scalarText]
    | _ => cases b <;> simp [compactChars, scalarText, quote] at same
  | str s => cases other with
    | str t =>
      obtain ⟨rfl, rfl⟩ := quote_delimits same
      exact ⟨rfl, rfl⟩
    | bool b => cases b <;> simp [compactChars, scalarText, quote] at same
    | _ => simp [compactChars, scalarText, quote] at same
  | @arr items itemsPlain ih => cases other with
    | @arr others othersPlain =>
      have delimited : Delimited compactChars ']' items others :=
        ⟨fun a left b right _ _ eq => ih a left (othersPlain b right) eq,
          fun a member r u eq => by
            obtain ⟨x, rest, text, start⟩ :=
              numberless_head (member.elim (itemsPlain a) (othersPlain a))
            simp [text] at eq
            simp [eq.1] at start⟩
      simp only [compactChars, compactItems_eq, List.cons_append, List.append_assoc,
        List.cons.injEq, true_and] at same
      obtain ⟨rfl, rfl⟩ := separated_delimits (by decide) delimited same
      exact ⟨rfl, rfl⟩
    | bool b => cases b <;> simp [compactChars, scalarText] at same
    | _ => simp [compactChars, scalarText, quote] at same
  | @obj members membersPlain ih => cases other with
    | @obj others othersPlain =>
      have delimited : Delimited memberChars '}' members others := by
        refine ⟨fun a left b right r u eq => ?_, fun a _ r u eq => by simp [memberChars, quote] at eq⟩
        simp only [memberChars, List.append_assoc, List.cons_append] at eq
        obtain ⟨key, rest⟩ := quote_delimits eq
        obtain ⟨value, rfl⟩ := ih a left (othersPlain b right) (List.cons.inj rest).2
        exact ⟨Prod.ext key value, rfl⟩
      simp only [compactChars, compactMembers_eq, List.cons_append, List.append_assoc,
        List.cons.injEq, true_and] at same
      obtain ⟨rfl, rfl⟩ := separated_delimits (by decide) delimited same
      exact ⟨rfl, rfl⟩
    | bool b => cases b <;> simp [compactChars, scalarText] at same
    | _ => simp [compactChars, scalarText, quote] at same

/-- Values without numbers that have the same compact text are the same value. -/
theorem compact_injective {v w : Json} (plain : Numberless v) (other : Numberless w)
    (same : v.compact = w.compact) : v = w := by
  have chars : compactChars v = compactChars w := String.ofList_injective same
  exact (compact_delimits (r := []) (u := []) plain other (by rw [chars])).1

end SemanticLayer.Json

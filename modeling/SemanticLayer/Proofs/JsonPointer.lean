import Mathlib
import SemanticLayer.Json.Pointer

/-! Pointers and their texts. Escaping keeps the slashes of a key apart from those that part segments, so a
pointer is read back from its text and no two pointers have one text (`parse?_render`). A pointer is followed
step by step: through the members of an object by their keys, and through the items of an array by their
indices in decimal digits (`resolve?_item`). -/
namespace SemanticLayer

namespace Text
variable {c : Char} {piece rest : List Char}

theorem splitAtChar_plain (plain : c ∉ piece) : splitAtChar c piece = [piece] := by
  induction piece with
  | nil => rfl
  | cons x piece ih =>
    have other : x ≠ c := fun same => plain (same ▸ List.mem_cons_self)
    simp [splitAtChar, other, ih fun later => plain (List.mem_cons_of_mem x later)]

theorem splitAtChar_ne_nil (cs : List Char) : splitAtChar c cs ≠ [] := by
  cases cs with
  | nil => simp [splitAtChar]
  | cons x rest =>
    rw [splitAtChar]
    split
    · simp
    · split <;> simp

/-- The pieces on both sides of a separator are the pieces of the two sides. -/
theorem splitAtChar_both (left right : List Char) :
    splitAtChar c (left ++ c :: right) = splitAtChar c left ++ splitAtChar c right := by
  induction left with
  | nil => simp [splitAtChar]
  | cons x left ih =>
    rw [List.cons_append, splitAtChar, splitAtChar, ih]
    split
    · rfl
    · cases pieces : splitAtChar c left with
      | nil => exact absurd pieces (splitAtChar_ne_nil left)
      | cons piece more => rfl

theorem splitAtChar_append (plain : c ∉ piece) :
    splitAtChar c (piece ++ c :: rest) = piece :: splitAtChar c rest := by
  rw [splitAtChar_both, splitAtChar_plain plain, List.singleton_append]

end Text

namespace Json.Pointer
open Text

/-! ### Texts of pointers -/

section Texts
variable {p q : Pointer}

/-- Escaped tildes have no slashes, so that one pass escapes a segment. -/
theorem escape_eq (segment : String) : escape segment = segment.toList.flatMap fun c =>
    if c = '~' then ['~', '0'] else if c = '/' then ['~', '1'] else [c] := by
  rw [escape, replaceChar, replaceChar, List.flatMap_assoc]
  refine List.flatMap_congr fun c _ => ?_
  by_cases tilde : c = '~' <;> simp [tilde]

theorem escape_plain (segment : String) : '/' ∉ escape segment := by
  intro slash
  obtain ⟨c, _, written⟩ := List.mem_flatMap.mp slash
  by_cases own : c = '/'
  · simp [own] at written
  · simp [own] at written
    exact own written.symm

theorem unescape?_cons {c : Char} (plain : c ≠ '~') (rest : List Char) :
    unescape? (c :: rest) = (unescape? rest).map (c :: ·) := by
  simp [unescape?, plain]

/-- A segment is read back from how it is written. -/
theorem unescape?_escape (segment : String) : unescape? (escape segment) = some segment.toList := by
  rw [escape_eq]
  induction segment.toList with
  | nil => rfl
  | cons c rest ih =>
    rw [List.flatMap_cons]
    by_cases tilde : c = '~'
    · simp [tilde, unescape?, ih]
    · by_cases slash : c = '/'
      · simp [slash, unescape?, ih]
      · simp only [tilde, slash, ↓reduceIte, List.singleton_append]
        rw [unescape?_cons tilde, ih]
        rfl

/-- The text of a pointer is split where its segments are. -/
theorem splitAtChar_render (segment : String) (p : Pointer) :
    splitAtChar '/' (escape segment ++ p.flatMap fun s => '/' :: escape s) =
      (segment :: p).map escape := by
  induction p generalizing segment with
  | nil =>
    rw [List.flatMap_nil, List.append_nil, splitAtChar_plain (escape_plain segment)]
    rfl
  | cons next p ih =>
    rw [List.flatMap_cons, List.cons_append, splitAtChar_append (escape_plain segment), ih next]
    rfl

/-- A pointer is read back from its text. -/
theorem parse?_render (p : Pointer) : parse? p.render = some p := by
  have chars : p.render.toList = p.flatMap fun s => '/' :: escape s := String.toList_ofList
  unfold parse?
  rw [chars]
  cases p with
  | nil => rfl
  | cons segment p =>
    have segments (p : Pointer) :
        (p.map escape).mapM (fun piece => (unescape? piece).map String.ofList) = some p := by
      induction p with
      | nil => rfl
      | cons s p ih => simp [unescape?_escape, ih]
    simp only [List.flatMap_cons, List.cons_append, splitAtChar_render]
    exact segments (segment :: p)

theorem render_injective (same : p.render = q.render) : p = q := by
  have read := congrArg parse? same
  rw [parse?_render, parse?_render] at read
  exact Option.some.inj read

end Texts

/-! ### Indices -/

/-- Only zero is written with a zero in front. -/
theorem toDigits_head {n : Nat} (zero : (Nat.toDigits 10 n).head? = some '0') : n = 0 := by
  induction n using Nat.strongRecOn with
  | ind n ih =>
    rw [Nat.toDigits_eq_if (by decide)] at zero
    split at zero
    · rename_i small
      interval_cases n <;> simp_all [Nat.digitChar]
    · have front : (Nat.toDigits 10 (n / 10)).head? = some '0' := by
        cases digits : Nat.toDigits 10 (n / 10) with
        | nil => exact absurd digits Nat.toDigits_ne_nil
        | cons d rest => simpa [digits] using zero
      have tens := ih (n / 10) (by omega) front
      omega

/-- An index is read back from its decimal digits. -/
theorem index?_toString (n : Nat) : index? (toString n) = some n := by
  have digits : (toString n).toList = Nat.toDigits 10 n := by
    rw [Nat.toString_eq_repr, Nat.toList_repr]
  have decimal : (Nat.toDigits 10 n).all Char.isDigit = true :=
    List.all_eq_true.mpr fun c member => Nat.isDigit_of_mem_toDigits (by decide) (by decide) member
  have number : (Nat.toDigits 10 n).foldl (fun n c => n * 10 + (c.toNat - 48)) 0 = n := by
    have read : (Nat.toDigits 10 n).foldl (fun n c => 10 * n + (c.toNat - 48)) 0 = n :=
      Nat.ofDigitChars_toDigits (by decide) (by decide)
    simpa only [Nat.mul_comm 10] using read
  unfold index?
  rw [digits]
  split
  · rename_i empty
    exact absurd empty Nat.toDigits_ne_nil
  · rename_i front
    have zero := toDigits_head (n := n) (by rw [front]; rfl)
    rw [zero] at front
    cases front
  · rw [if_pos decimal, number]

/-! ### Following pointers -/

section Steps
variable {v part x : Json} {p : Pointer} {key : String} {items : List Json} {i : Nat}

/-- A pointer is followed one part after the other. -/
theorem resolve?_append (v : Json) (p q : Pointer) :
    resolve? v (p ++ q) = (resolve? v p).bind fun part => resolve? part q := by
  induction p generalizing v with
  | nil => rfl
  | cons segment p ih =>
    simp only [List.cons_append, resolve?]
    cases step? v segment with
    | none => rfl
    | some part => exact ih part

theorem resolve?_step (here : resolve? v p = some part) (segment : String) :
    resolve? v (p ++ [segment]) = step? part segment := by
  rw [resolve?_append, here, Option.bind_some]
  simp [resolve?]

/-- A pointer goes on to the members of an object. -/
theorem resolve?_member (here : resolve? v p = some part) (found : part.get? key = some x) :
    resolve? v (p ++ [key]) = some x := by
  rw [resolve?_step here]
  cases part with
  | obj members => exact found
  | _ => cases found

/-- A pointer goes on to the items of an array. -/
theorem resolve?_item (here : resolve? v p = some (.arr items)) (found : items[i]? = some x) :
    resolve? v (p ++ [toString i]) = some x := by
  rw [resolve?_step here, step?, index?_toString, Option.bind_some, found]

end Steps
end Json.Pointer
end SemanticLayer

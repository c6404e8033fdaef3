import SemanticLayer.Json.Basic
/-!
Values with named fields. A record may be given as an object, whose other members are ignored, or
as an array that holds the fields in their order and may end early. A field may be required; it may
have a default; or it may be optional, where null counts as none. An array must not leave out an
optional field without a default.
-/
namespace SemanticLayer.Json

/-- The fields of a record that are given. -/
structure Record where
  fields : List (String × Json)
  /-- Whether the fields were told apart by their position. -/
  byPosition : Bool

namespace Record

/-- The record that a value holds, whose fields have the given names. -/
def of? (names : List String) : Json → Option Record
  | .obj members => some ⟨members, false⟩
  | .arr items => if items.length ≤ names.length then some ⟨names.zip items, true⟩ else none
  | _ => none

/-- A field that must be given. -/
def required (r : Record) (name : String) (read : Json → Option α) : Option α :=
  (Keyed.get? name r.fields).bind read

/-- A field that has a default. -/
def defaulted (r : Record) (name : String) (default : α) (read : Json → Option α) : Option α :=
  match Keyed.get? name r.fields with
  | some v => read v
  | none => some default

/-- A field that may be left out of an object. -/
def optional (r : Record) (name : String) (read : Json → Option (Option α)) : Option (Option α) :=
  match Keyed.get? name r.fields with
  | some v => read v
  | none => if r.byPosition then none else some none

end Record

/-- A value or null. -/
def orNull (read : Json → Option α) : Json → Option (Option α)
  | .null => some none
  | v => (read v).map some

/-- The items of an array, each read. -/
def listOf (read : Json → Option α) : Json → Option (List α)
  | .arr items => items.mapM read
  | _ => none

/-- An array of exactly two items. -/
def pairOf {α β : Type} (first : Json → Option α) (second : Json → Option β) : Json → Option (α × β)
  | .arr [a, b] => do return (← first a, ← second b)
  | _ => none

/-- The members of an object, each read. -/
def mapOf (read : Json → Option α) : Json → Option (List (String × α))
  | .obj members => members.mapM fun (k, v) => (read v).map ((k, ·))
  | _ => none

/-- A signed integer of 64 bits. -/
def signed? : Json → Option Int
  | .int n => if -(Nat.pow 2 63 : Int) ≤ n ∧ n < Nat.pow 2 63 then some n else none
  | _ => none

/-- An unsigned integer of 64 bits. -/
def unsigned? : Json → Option Nat
  | .int n => if 0 ≤ n ∧ n < Nat.pow 2 64 then some n.toNat else none
  | _ => none

/-- One of a list of words, given as a string or as an object with the word as its only key and
null as its value. -/
def word? (words : List (String × α)) : Json → Option α
  | .str s => Keyed.get? s words
  | .obj [(k, .null)] => Keyed.get? k words
  | _ => none

/-- The value itself. -/
def any? (v : Json) : Option Json := some v

end SemanticLayer.Json

import Mathlib
import SemanticLayer.Drift.Mapping

/-! When a property and a column belong together: they have the same name but for letter case, or the column may hold
what the property is declared to be. What a column holds is told by the word that its type starts with. Some of these
words start others, as a date does a date with a time; of two words that fit the longer one counts, since no word
comes before one that it starts (`typePrefixes_apart`, `typeFamily?_eq_some`). -/
namespace SemanticLayer.Drift

/-- Two names are the same but for the case of their ASCII letters. -/
def SameName (s t : String) : Prop := s.toList.map Char.toLower = t.toList.map Char.toLower

instance (s t : String) : Decidable (SameName s t) := inferInstanceAs (Decidable (_ = _))

/-- The words that the types of columns start with which hold a type. -/
def familyWords : PropertyType → List String
  | .string => ["varchar", "nvarchar", "char", "string", "text"]
  | .integer => ["bigint", "smallint", "tinyint", "byteint", "int"]
  | .number => ["float", "double", "real"]
  | .decimal => ["number", "numeric", "decimal"]
  | .boolean => ["bool"]
  | .date => ["date"]
  | .timestamp => ["timestamp", "datetime"]
  | .time => ["time"]

/-- Columns of this type hold a type: it starts with one of the words for that, and with no longer word. -/
def FamilyOf (liveType : String) (family : PropertyType) : Prop :=
  ∃ word ∈ familyWords family, word.toList <+: (foldWord liveType).toList ∧
    ∀ other, ∀ longer ∈ familyWords other, longer.toList <+: (foldWord liveType).toList →
      longer.toList.length ≤ word.toList.length

/-- What is declared as one type may be held by columns for another: fixed-point columns hold integers and all other
numbers, and floating-point columns hold decimals. -/
@[mk_iff]
inductive HeldAs : PropertyType → PropertyType → Prop
  | same (type : PropertyType) : HeldAs type type
  | integer : HeldAs .integer .decimal
  | number : HeldAs .number .decimal
  | decimal : HeldAs .decimal .number

/-- A column may hold a property. -/
def MayHold (c : LiveColumn) (p : Property) : Prop := ∃ family, FamilyOf c.type family ∧ HeldAs p.type family

section Matching
variable {s t liveType word : String} {family : PropertyType} {p : Property} {c : LiveColumn}

theorem sameIgnoringCase_iff : Text.sameIgnoringCase s t = true ↔ SameName s t := by
  rw [Text.sameIgnoringCase, beq_iff_eq, Text.asciiLower, Text.asciiLower, String.ofList_inj]
  rfl

theorem compatible_iff {declared live : PropertyType} : compatible declared live = true ↔ HeldAs declared live := by
  cases declared <;> cases live <;> simp [compatible, heldAs_iff]

theorem mem_typePrefixes : (word, family) ∈ typePrefixes ↔ word ∈ familyWords family := by
  cases family <;> simp [typePrefixes, familyWords]

/-- No word comes before one that it starts. -/
theorem typePrefixes_apart : typePrefixes.Pairwise fun a b => ¬ a.1.toList <+: b.1.toList := by
  decide +kernel

/-- The first word that starts a text is the longest one that does. -/
theorem firstWord_longest {text : List Char} {entry : String × PropertyType}
    (found : typePrefixes.find? (fun p => Text.startsWith p.1.toList text) = some entry) :
    entry.1.toList <+: text ∧ ∀ other ∈ typePrefixes, other.1.toList <+: text →
      other.1.toList.length ≤ entry.1.toList.length := by
  obtain ⟨starts, before, after, split, earlier⟩ := List.find?_eq_some_iff_append.mp found
  have starts : entry.1.toList <+: text := List.isPrefixOf_iff_prefix.mp starts
  refine ⟨starts, fun other listed startsToo => ?_⟩
  have apart := typePrefixes_apart
  rw [split] at listed apart
  rcases List.mem_append.mp listed with first | second
  · have silent := earlier other first
    simp [Text.startsWith, List.isPrefixOf_iff_prefix.mpr startsToo] at silent
  · rcases List.mem_cons.mp second with rfl | later
    · exact le_rfl
    · by_contra longer
      have inside := List.prefix_of_prefix_length_le starts startsToo (by omega)
      exact (List.pairwise_cons.mp (List.pairwise_append.mp apart).2.1).1 other later inside

theorem typeFamily?_eq_some : typeFamily? liveType = some family ↔ FamilyOf liveType family := by
  unfold typeFamily?
  dsimp only
  rw [Option.map_eq_some_iff]
  constructor
  · rintro ⟨⟨word, family⟩, found, rfl⟩
    obtain ⟨starts, longest⟩ := firstWord_longest found
    have listed : (word, family) ∈ typePrefixes := List.mem_of_find?_eq_some found
    exact ⟨word, mem_typePrefixes.mp listed, starts, fun other longer listedToo =>
      longest (longer, other) (mem_typePrefixes.mpr listedToo)⟩
  · rintro ⟨word, listed, starts, longest⟩
    have any : (typePrefixes.find? fun p => Text.startsWith p.1.toList (foldWord liveType).toList).isSome :=
      List.find?_isSome.mpr ⟨_, mem_typePrefixes.mpr listed, List.isPrefixOf_iff_prefix.mpr starts⟩
    obtain ⟨⟨first, other⟩, found⟩ := Option.isSome_iff_exists.mp any
    obtain ⟨startsToo, longestToo⟩ := firstWord_longest found
    have listedToo : (first, other) ∈ typePrefixes := List.mem_of_find?_eq_some found
    have length : first.toList.length = word.toList.length :=
      le_antisymm (longest other first (mem_typePrefixes.mp listedToo) startsToo)
        (longestToo (word, family) (mem_typePrefixes.mpr listed) starts)
    obtain rfl : first = word := String.toList_inj.mp
      ((List.prefix_of_prefix_length_le startsToo starts length.le).eq_of_length length)
    have distinct : (typePrefixes.map Prod.fst).Nodup := by decide
    have same : (first, other) = (first, family) :=
      List.inj_on_of_nodup_map distinct listedToo (mem_typePrefixes.mpr listed) rfl
    exact ⟨(first, other), found, congrArg Prod.snd same⟩

theorem canHold_iff : canHold p c = true ↔ MayHold c p := by
  unfold canHold MayHold
  simp only [← typeFamily?_eq_some, ← compatible_iff]
  cases typeFamily? c.type <;> simp

instance : Decidable (MayHold c p) := decidable_of_iff _ canHold_iff

end Matching
end SemanticLayer.Drift

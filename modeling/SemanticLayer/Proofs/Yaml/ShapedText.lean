import SemanticLayer.Model.Yaml
import SemanticLayer.Proofs.TextOrder
import SemanticLayer.Proofs.Yaml.Parsing

/-! A value that has all of what its shape asks for is read back from its text. What a shape asks for
is stated on values alone; that the writer's text has it follows from the tree that is read from the
text. Main statement: `readShaped_render`. -/
namespace SemanticLayer

open Yaml (isName)
open Yaml.Node (stripOptional)

namespace Shape

/-! ### Values of a shape -/

/-- A value is of a shape: texts, lists, and records of declared fields, each given once and none that
must be given left out. -/
inductive Fits : Shape → Json → Prop
  | text {shape : Shape} (is : stripOptional shape = .text) (s : String) : Fits shape (.str s)
  | list {shape item : Shape} {items : List Json} (is : stripOptional shape = .list item)
      (each : ∀ v ∈ items, Fits item v) : Fits shape (.arr items)
  | record {shape : Shape} {name : String} {fields : List (String × Bool × Shape)}
      {members : List (String × Json)} (is : stripOptional shape = .record name fields)
      (nonempty : members ≠ []) (distinct : (members.map (·.1)).Nodup)
      (complete : missing? fields (members.map (·.1)) = none)
      (declared : ∀ member ∈ members, (Keyed.get? member.1 fields).isSome = true)
      (each : ∀ member ∈ members, ∀ required inner,
        Keyed.get? member.1 fields = some (required, inner) → Fits inner member.2) :
      Fits shape (.obj members)

/-- The members of a record in the order of its fields, those that need not be given perhaps left
out. -/
inductive Members (fits : Shape → Json → Prop) :
    List (String × Bool × Shape) → List (String × Json) → Prop
  | nil : Members fits [] []
  | given {name : String} {required : Bool} {inner : Shape} {v : Json}
      {fields : List (String × Bool × Shape)} {members : List (String × Json)} (fit : fits inner v)
      (rest : Members fits fields members) :
      Members fits ((name, required, inner) :: fields) ((name, v) :: members)
  | omitted {name : String} {inner : Shape} {fields : List (String × Bool × Shape)}
      {members : List (String × Json)} (rest : Members fits fields members) :
      Members fits ((name, false, inner) :: fields) members

section Members
variable {fits : Shape → Json → Prop} {fields : List (String × Bool × Shape)}
  {members : List (String × Json)}

theorem members_sublist (given : Members fits fields members) :
    (members.map (·.1)).Sublist (fields.map (·.1)) := by
  induction given with
  | nil => exact .slnil
  | given _ _ ih => exact ih.cons_cons _
  | omitted _ ih => exact ih.cons _

theorem members_required (given : Members fits fields members) :
    ∀ field ∈ fields, field.2.1 = true → field.1 ∈ members.map (·.1) := by
  induction given with
  | nil => exact List.forall_mem_nil _
  | given _ _ ih =>
    refine List.forall_mem_cons.mpr ⟨fun _ => List.mem_cons_self, fun field member required => ?_⟩
    exact List.mem_cons_of_mem _ (ih field member required)
  | omitted _ ih => exact List.forall_mem_cons.mpr ⟨fun required => Bool.noConfusion required, ih⟩

theorem members_fit (given : Members fits fields members) :
    ∀ member ∈ members, ∃ required inner, (member.1, required, inner) ∈ fields ∧ fits inner member.2 := by
  induction given with
  | nil => exact List.forall_mem_nil _
  | @given name required inner v fields members fit _ ih =>
    refine List.forall_mem_cons.mpr ⟨⟨required, inner, List.mem_cons_self, fit⟩, fun member later => ?_⟩
    obtain ⟨required, inner, declared, fits⟩ := ih member later
    exact ⟨required, inner, List.mem_cons_of_mem _ declared, fits⟩
  | omitted _ ih =>
    intro member later
    obtain ⟨required, inner, declared, fits⟩ := ih member later
    exact ⟨required, inner, List.mem_cons_of_mem _ declared, fits⟩

/-- A field that need not be given, and is only if there is a value for it. -/
theorem members_option {α : Type} {name : String} {inner : Shape} {write : α → Json} (value : Option α)
    (fit : ∀ x, fits inner (write x)) (rest : Members fits fields members) :
    Members fits ((name, false, inner) :: fields)
      ((value.map fun x => (name, write x)).toList ++ members) := by
  cases value with
  | none => exact .omitted rest
  | some x => exact .given (fit x) rest

theorem fits_record {name : String} (distinct : (fields.map (·.1)).Nodup) (nonempty : members ≠ [])
    (given : Members Fits fields members) : Fits (.record name fields) (.obj members) := by
  have field (member : String × Json) (isMember : member ∈ members) :
      ∃ required inner, Keyed.get? member.1 fields = some (required, inner) ∧ Fits inner member.2 := by
    obtain ⟨required, inner, declared, fits⟩ := members_fit given member isMember
    exact ⟨required, inner, Keyed.get?_of_mem distinct declared, fits⟩
  refine .record rfl nonempty ((members_sublist given).nodup distinct) ?_ ?_ ?_
  · refine List.find?_eq_none.mpr fun name isRequired => ?_
    obtain ⟨field, member, rfl⟩ := List.mem_map.mp isRequired
    obtain ⟨isField, required⟩ := List.mem_filter.mp member
    simpa using members_required given field isField required
  · intro member isMember
    obtain ⟨required, inner, found, _⟩ := field member isMember
    simp [found]
  · intro member isMember required inner found
    obtain ⟨_, _, alsoFound, fits⟩ := field member isMember
    rw [alsoFound] at found
    cases found
    exact fits

end Members

/-! ### Shapes that can be written -/

def isList : Shape → Bool
  | .list _ => true
  | _ => false

mutual
/-- Whether the fields have names that can be keys, and no list holds lists. -/
def isWritable : Shape → Bool
  | .text => true
  | .flag => true
  | .optional inner => isWritable inner
  | .list item => !isList (stripOptional item) && isWritable item
  | .record _ fields => areWritable fields
/-- Whether the fields of a record have such names and shapes. -/
def areWritable : List (String × Bool × Shape) → Bool
  | [] => true
  | (name, _, inner) :: rest => isName name && isWritable inner && areWritable rest
end

theorem writable_inner {shape inner : Shape} (writable : isWritable shape = true)
    (is : stripOptional shape = inner) : isWritable inner = true := by
  cases shape with
  | optional shape =>
    obtain rfl : shape = inner := is
    rwa [isWritable] at writable
  | _ => exact is ▸ writable

theorem writable_field {fields : List (String × Bool × Shape)} (writable : areWritable fields = true)
    {name : String} {required : Bool} {inner : Shape} (member : (name, required, inner) ∈ fields) :
    isName name = true ∧ isWritable inner = true := by
  induction fields with
  | nil => cases member
  | cons field fields ih =>
    obtain ⟨first, _, shape⟩ := field
    simp only [areWritable, Bool.and_eq_true] at writable
    rcases List.mem_cons.mp member with same | later
    · cases same
      exact writable.1
    · exact ih writable.2 later

end Shape

namespace Yaml
open Shape

/-! ### Trees of values -/

theorem ofItems_eq (items : List Json) : Tree.ofItems items = items.map Tree.ofJson := by
  induction items with
  | nil => rfl
  | cons v items ih => simp [Tree.ofItems, ih]

theorem ofMembers_eq (members : List (String × Json)) :
    Tree.ofMembers members = members.map fun member => (member.1, Tree.ofJson member.2) := by
  induction members with
  | nil => rfl
  | cons member members ih => simp [Tree.ofMembers, ih]

theorem fits_flat {shape : Shape} {v : Json} (fits : Fits shape v)
    (notList : isList (stripOptional shape) = false) : (Tree.ofJson v).isSeq = false := by
  cases fits with
  | text _ s => rfl
  | list is each =>
    rw [is] at notList
    exact Bool.noConfusion notList
  | record => rfl

theorem fits_regular {shape : Shape} {v : Json} (fits : Fits shape v) (writable : isWritable shape = true) :
    (Tree.ofJson v).Regular := by
  induction fits with
  | text _ s => exact .scalar s
  | @list shape item items is each ih =>
    have inner := writable_inner writable is
    simp only [isWritable, Bool.and_eq_true, Bool.not_eq_true'] at inner
    rw [Tree.ofJson, ofItems_eq]
    refine .seq (fun tree member => ?_) (fun tree member => ?_)
    all_goals obtain ⟨v, isItem, rfl⟩ := List.mem_map.mp member
    · exact ih v isItem inner.2
    · exact fits_flat (each v isItem) inner.1
  | @record shape name fields members is nonempty distinct complete declared each ih =>
    have inner := writable_inner writable is
    rw [isWritable] at inner
    have field (member : String × Json) (isMember : member ∈ members) :
        ∃ required shape, Keyed.get? member.1 fields = some (required, shape) ∧
          isName member.1 = true ∧ isWritable shape = true := by
      obtain ⟨⟨required, shape⟩, found⟩ := Option.isSome_iff_exists.mp (declared member isMember)
      exact ⟨required, shape, found, writable_field inner (Keyed.mem_of_get? found)⟩
    rw [Tree.ofJson, ofMembers_eq]
    refine .map (by simpa using nonempty) (fun entry isEntry => ?_) (fun entry isEntry => ?_)
    all_goals
      obtain ⟨member, isMember, rfl⟩ := List.mem_map.mp isEntry
      obtain ⟨required, shape, found, isName, writable⟩ := field member isMember
    · exact isName
    · exact ih member isMember required shape found writable

/-! ### Reading by the shape -/

theorem items_conform {item : Shape} {items : List Json}
    (each : ∀ v ∈ items, ∀ path node, (Tree.ofJson v).ReadAs node → node.conform item path = .ok v)
    (path : String) (index : Nat) {nodes : List Node}
    (read : Tree.ItemsReadAs (items.map Tree.ofJson) nodes) :
    Node.conformItems item path index nodes = .ok items := by
  induction items generalizing index nodes with
  | nil =>
    obtain rfl := read
    rfl
  | cons v items ih =>
    obtain ⟨node, others, rfl, isItem, areItems⟩ := read
    obtain ⟨here, later⟩ := List.forall_mem_cons.mp each
    simp [Node.conformItems, here _ node isItem, ih later (index + 1) areItems, bind, Except.bind, pure,
      Except.pure]

theorem entries_conform {fields : List (String × Bool × Shape)} {members : List (String × Json)}
    (declared : ∀ member ∈ members, (Keyed.get? member.1 fields).isSome = true)
    (each : ∀ member ∈ members, ∀ required inner, Keyed.get? member.1 fields = some (required, inner) →
      ∀ path node, (Tree.ofJson member.2).ReadAs node → node.conform inner path = .ok member.2)
    (path : String) (mark : Mark) {done : List String} (distinct : (members.map (·.1)).Nodup)
    (fresh : ∀ member ∈ members, member.1 ∉ done) {pairs : List (Node × Node)}
    (read : Tree.EntriesReadAs (members.map fun member => (member.1, Tree.ofJson member.2)) pairs) :
    Node.conformEntries fields path mark done pairs = .ok members := by
  induction members generalizing done pairs with
  | nil =>
    obtain rfl := read
    rfl
  | cons member members ih =>
    obtain ⟨name, v⟩ := member
    obtain ⟨mark, node, others, rfl, isValue, areEntries⟩ := read
    obtain ⟨⟨required, inner⟩, found⟩ := Option.isSome_iff_exists.mp (declared (name, v) List.mem_cons_self)
    obtain ⟨here, later⟩ := List.forall_mem_cons.mp each
    obtain ⟨notLater, distinct⟩ := List.nodup_cons.mp distinct
    obtain ⟨notDone, freshLater⟩ := List.forall_mem_cons.mp fresh
    have freshNext : ∀ member ∈ members, member.1 ∉ name :: done := by
      intro member isMember
      rw [List.mem_cons, not_or]
      exact ⟨fun same => notLater (List.mem_map.mpr ⟨member, isMember, same⟩), freshLater member isMember⟩
    have value := here required inner found (Node.fieldPath path name) node isValue
    have rest := ih (fun member isMember => declared member (List.mem_cons_of_mem _ isMember)) later
      distinct freshNext areEntries
    simp [Node.conformEntries, Node.keyOf?, found, notDone, value, rest, bind, Except.bind, pure, Except.pure]

theorem fits_conform {shape : Shape} {v : Json} (fits : Fits shape v) :
    ∀ path node, (Tree.ofJson v).ReadAs node → node.conform shape path = .ok v := by
  induction fits with
  | @text shape is s =>
    rintro path node ⟨mark, rfl⟩
    have notNone : Node.isNone none (styleOf s) s = false := by
      have fits := styleOf_fits s
      cases style : styleOf s <;> simp only [style, Style.Fits] at fits <;> simp [Node.isNone, fits]
    cases shape with
    | optional inner =>
      obtain rfl : inner = .text := is
      simp [Node.conform, notNone, Node.scalarValue]
    | text => simp [Node.conform, Node.scalarValue]
    | _ => cases is
  | @list shape item items is each ih =>
    rintro path node ⟨mark, nodes, rfl, areItems⟩
    rw [ofItems_eq] at areItems
    simp [Node.conform, is, items_conform ih path 0 areItems, bind, Except.bind, pure, Except.pure]
  | @record shape name fields members is nonempty distinct complete declared each ih =>
    rintro path node ⟨mark, pairs, rfl, areEntries⟩
    rw [ofMembers_eq] at areEntries
    have given := entries_conform declared ih path mark distinct
      (fun member _ => List.not_mem_nil (a := member.1)) areEntries
    simp [Node.conform, is, given, complete, bind, Except.bind, pure, Except.pure]

/-- A record that has all that its shape asks for is read back from its text. -/
theorem readShaped_render {shape : Shape} {members : List (String × Json)}
    (fits : Fits shape (.obj members)) (writable : isWritable shape = true) :
    readShaped shape (Tree.ofJson (.obj members)).render = .ok (.obj members) := by
  obtain ⟨node, read, isTree⟩ := Reading.read_render (fits_regular fits writable)
  have value := fits_conform fits "" node isTree
  rw [readShaped, Tree.ofJson, read]
  simp [value]

end Yaml
end SemanticLayer

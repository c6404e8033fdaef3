import SemanticLayer.Evaluation.Check
import SemanticLayer.Proofs.WellFormed

/-! Under which documents every object has a table with a name. The table is that of the object, that which the
mapping gives it, or the one of its own name in lower case. The last is never blank, since names are not and
lower case hides no character. The others may be: the check that every object has a table does not look at them
where there is a mapping. Main statement: `tables_named_iff`. -/
namespace SemanticLayer

/-! ### Lower case -/

namespace Text

/-- The blank characters. -/
def blankCodes : List Nat :=
  [0x9, 0xA, 0xB, 0xC, 0xD, 0x20, 0x85, 0xA0, 0x1680, 0x2000, 0x2001, 0x2002, 0x2003, 0x2004, 0x2005, 0x2006,
    0x2007, 0x2008, 0x2009, 0x200A, 0x2028, 0x2029, 0x202F, 0x205F, 0x3000]

theorem mem_blankCodes {c : Char} (blank : isBlank c = true) : c.toNat ∈ blankCodes := by
  simp only [isBlank, Bool.or_eq_true, Bool.and_eq_true, decide_eq_true_eq, beq_iff_eq] at blank
  simp only [blankCodes, List.mem_cons, List.not_mem_nil, or_false]
  omega

theorem ofNat_mem_blankCodes {n : Nat} (blank : isBlank (Char.ofNat n) = true) : n ∈ blankCodes := by
  have listed := mem_blankCodes blank
  rw [Char.toNat_ofNat] at listed
  split at listed
  · exact listed
  · exact absurd listed (by decide)

/-- No letter of the table becomes blank. -/
theorem lowerShifts_apart : ∀ e ∈ lowerShifts, ∀ code ∈ blankCodes,
    (code : Int) < e.1 + e.2.2.2 ∨ e.2.1 + e.2.2.2 < code := by
  decide +kernel

theorem isBlank_toLower {c : Char} (ascii : c.toNat < 128) : isBlank c.toLower = isBlank c := by
  have all : ∀ n < 128, isBlank (Char.ofNat n).toLower = isBlank (Char.ofNat n) := by decide +kernel
  have same := all c.toNat ascii
  rwa [Char.ofNat_toNat] at same

theorem lowerChar_shown {c : Char} (shown : isBlank c = false) : ∃ d ∈ lowerChar c, isBlank d = false := by
  unfold lowerChar
  dsimp only
  split
  · next ascii => exact ⟨c.toLower, List.mem_cons_self, (isBlank_toLower ascii).trans shown⟩
  · split
    · exact ⟨'i', List.mem_cons_self, by decide⟩
    · split
      · next first last step shift found =>
        refine ⟨_, List.mem_cons_self, Bool.eq_false_iff.mpr ?_⟩
        intro blank
        have inside := List.find?_some found
        simp only [Bool.and_eq_true, decide_eq_true_eq] at inside
        have apart := lowerShifts_apart _ (List.mem_of_find?_eq_some found) _ (ofNat_mem_blankCodes blank)
        dsimp only at apart
        have positive : ((c.toNat : Int) + shift).toNat ≠ 0 := by
          intro zero
          rw [zero] at blank
          exact absurd blank (by decide)
        omega
      · exact ⟨c, List.mem_cons_self, shown⟩

theorem lowerFrom_shown {before cs : List Char} (shown : ∃ c ∈ cs, isBlank c = false) :
    ∃ d ∈ lowerFrom before cs, isBlank d = false := by
  induction cs generalizing before with
  | nil => simp at shown
  | cons c rest ih =>
    simp only [lowerFrom, List.mem_append]
    obtain ⟨d, listed, visible⟩ := shown
    rcases List.mem_cons.mp listed with rfl | later
    · split
      · split
        · exact ⟨Char.ofNat 0x3C2, .inl List.mem_cons_self, by decide⟩
        · exact ⟨Char.ofNat 0x3C3, .inl List.mem_cons_self, by decide⟩
      · obtain ⟨e, lowered, visible⟩ := lowerChar_shown visible
        exact ⟨e, .inl lowered, visible⟩
    · obtain ⟨e, lowered, visible⟩ := ih ⟨d, later, visible⟩
      exact ⟨e, .inr lowered, visible⟩

theorem allBlank_eq_false {s : String} : allBlank s = false ↔ ∃ c ∈ s.toList, isBlank c = false := by
  simp [allBlank]

theorem lower_shown {s : String} (shown : allBlank s = false) : allBlank (lower s) = false := by
  rw [allBlank_eq_false] at shown ⊢
  rw [lower, String.toList_ofList]
  exact lowerFrom_shown shown

end Text

/-! ### The table of an object -/

namespace Document
variable {root v : Json}

/-- The table that the mapping of a document gives an object; of two entries for it the last counts. -/
def mappedTable? (root : Json) (object : String) : Option String :=
  (root.get? "snowflake").bind fun mapping =>
    Keyed.get? object (Keyed.ofList ((((mapping.get? "tableMappings").bind Json.obj?).getD []).filterMap
      fun (k, v) => v.str?.map ((k, ·))))

/-- No table that the document names is blank: neither one that an object names for itself, nor one that the
mapping gives to an object that names none. -/
structure TablesNamed (root : Json) : Prop where
  own : ∀ v ∈ root.items "objects", ∀ table, v.nonEmptyText? "table" = some table → Text.allBlank table = false
  mapped : ∀ v ∈ root.items "objects", v.nonEmptyText? "table" = none →
    ∀ name table, v.text? "name" = some name → mappedTable? root name = some table → Text.allBlank table = false

theorem DocumentShape.name_shown (shape : DocumentShape root) (declared : v ∈ root.items "objects") :
    ∃ name, v.text? "name" = some name ∧ Text.allBlank name = false := by
  obtain ⟨_, found, name, rfl, shown⟩ := (shape.objects_shaped v declared).name
  exact ⟨name, by simp [Json.text?, found, Json.str?], Text.allBlank_eq_false.mpr shown⟩

/-- Objects that have no table of their own find none under their name among those of other objects. -/
theorem DocumentForm.own_tables {name : String} (form : DocumentForm root) (declared : v ∈ root.items "objects")
    (named : v.text? "name" = some name) (unplaced : v.nonEmptyText? "table" = none) :
    Keyed.get? name ((normalize root).objects.filterMap fun o => o.table.map fun table => (o.name, table)) =
      none := by
  apply Option.not_isSome_iff_eq_none.mp
  rw [Keyed.get?_isSome]
  intro listed
  obtain ⟨⟨_, table⟩, stored, rfl⟩ := List.mem_map.mp listed
  obtain ⟨x, member, placed⟩ := List.mem_filterMap.mp stored
  obtain ⟨_, own, same⟩ := Option.map_eq_some_iff.mp placed
  obtain ⟨sameName, rfl⟩ := Prod.mk.inj same
  have made : Normalize.object v ∈ (normalize root).objects :=
    form.objects_perm.mem_iff.mpr (List.mem_map_of_mem declared)
  have sameObject : x = Normalize.object v := by
    apply List.inj_on_of_nodup_map (form.objects_increasing form.objectNames).distinct member made
    exact sameName.trans (textOr_eq named).symm
  rw [sameObject] at own
  exact absurd (unplaced.symm.trans own) (by simp)

/-- The table that an object names itself comes before that of the mapping, and that before its name. -/
theorem DocumentForm.physicalTable_eq {name : String} (form : DocumentForm root)
    (declared : v ∈ root.items "objects") (named : v.text? "name" = some name) :
    (normalize root).physicalTable (Normalize.object v) =
      (v.nonEmptyText? "table").getD ((mappedTable? root name).getD (Text.lower name)) := by
  have sameName : (Normalize.object v).name = name := textOr_eq named
  unfold Ontology.physicalTable
  rw [sameName, show (Normalize.object v).table = v.nonEmptyText? "table" from rfl]
  cases own : v.nonEmptyText? "table" with
  | some table => rfl
  | none =>
    dsimp only [Option.getD_none]
    -- The tables that other objects name for themselves are in the mapping as well, under other names.
    have mapped : ((normalize root).mapping.bind fun m => Keyed.get? name m.tables) = mappedTable? root name := by
      cases found : root.get? "snowflake" with
      | none => simp [normalize, found, mappedTable?]
      | some mapping =>
        rw [form.complete.mapping mapping found, Option.bind_some]
        simp only [mappedTable?, found, Option.bind_some]
        rw [Normalize.mapping, Normalize.tables_eq, Keyed.get?_foldl_insertNew, form.own_tables declared named own,
          Option.or_none]
    rw [mapped]
    cases mappedTable? root name <;> rfl

/-- All objects have tables with a name exactly if no table that the document names is blank. -/
theorem DocumentForm.physicalTable_shown (form : DocumentForm root) :
    (∀ x ∈ (normalize root).objects, Text.allBlank ((normalize root).physicalTable x) = false) ↔
      TablesNamed root := by
  have declared_iff : (∀ x ∈ (normalize root).objects, Text.allBlank ((normalize root).physicalTable x) = false) ↔
      ∀ v ∈ root.items "objects", Text.allBlank ((normalize root).physicalTable (Normalize.object v)) = false := by
    simp only [form.objects_perm.mem_iff, List.forall_mem_map]
  rw [declared_iff]
  constructor
  · intro shown
    refine ⟨?_, ?_⟩
    · intro v declared table own
      obtain ⟨name, named, _⟩ := form.name_shown declared
      have visible := shown v declared
      rwa [form.physicalTable_eq declared named, own, Option.getD_some] at visible
    · intro v declared unplaced name table named mapped
      have visible := shown v declared
      rwa [form.physicalTable_eq declared named, unplaced, mapped, Option.getD_none, Option.getD_some] at visible
  · intro tables v declared
    obtain ⟨name, named, shown⟩ := form.name_shown declared
    rw [form.physicalTable_eq declared named]
    cases own : v.nonEmptyText? "table" with
    | some table => exact tables.own v declared table own
    | none =>
      cases mapped : mappedTable? root name with
      | some table => exact tables.mapped v declared own name table named mapped
      | none => exact Text.lower_shown shown

end Document

/-! ### The check -/

namespace Check
variable {o : Ontology}

/-- Without a mapping, the check passes only if every object names a table itself. -/
theorem mappingComplete_own (passes : (mappingComplete o).outcome = .pass) (unmapped : o.mapping = none) :
    ∀ x ∈ o.objects, hasTable x = true := by
  intro x member
  by_contra without
  have listed : x.name ∈ (o.objects.filter fun object => !hasTable object).map (·.name) := by
    apply List.mem_map_of_mem
    simpa using And.intro member without
  have some : ((o.objects.filter fun object => !hasTable object).map (·.name)).isEmpty = false :=
    List.isEmpty_eq_false_iff.mpr (List.ne_nil_of_mem listed)
  simp [mappingComplete, unmapped, some] at passes

end Check

/-- Of a valid document that passes the check, all objects have tables with a name exactly if no table that the
document names is blank, and so have all tables of the model for a view. Without a mapping this is always so. -/
theorem tables_named_iff {root : Json} (valid : (Document.validate root).isValid = true)
    (passes : (Check.mappingComplete (normalize root)).outcome = .pass) :
    ((∀ x ∈ (normalize root).objects, Text.allBlank ((normalize root).physicalTable x) = false) ↔
      Document.TablesNamed root) ∧
    (∀ view, (∀ table ∈ (Model.build (normalize root) view).tables, Text.allBlank table.base.table = false) ↔
      Document.TablesNamed root) ∧
    (root.get? "snowflake" = none → Document.TablesNamed root) := by
  have form := Document.DocumentForm.of_findings (Document.findings_of_isValid valid)
  refine ⟨form.physicalTable_shown, ?_, ?_⟩
  · intro view
    rw [← form.physicalTable_shown]
    exact List.forall_mem_map
  · intro unmapped
    have noMapping : (normalize root).mapping = none := by simp [normalize, unmapped]
    apply form.physicalTable_shown.mp
    intro x member
    have own := Check.mappingComplete_own passes noMapping x member
    cases named : x.table with
    | none => simp [Check.hasTable, named] at own
    | some table => simpa [Check.hasTable, Ontology.physicalTable, named] using own

/-- Orders that name no table. -/
def Document.plainOrder : Json :=
  .obj [("identifiers", .arr [.str "id"]), ("name", .str "Order"),
    ("properties", .arr [.obj [("name", .str "id"), ("type", .str "integer")]])]

/-- Orders that are mapped to a table. -/
def Document.mappedOrders (table : String) : Json :=
  .obj [
    ("objects", .arr [plainOrder]),
    ("snowflake", .obj [("database", .str "DB"), ("schema", .str "PUBLIC"),
      ("tableMappings", .obj [("Order", .str table)])]),
    ("version", .str "1.0.0")]

theorem mapped_orders_named :
    (Document.validate (Document.mappedOrders "ORDERS")).isValid = true ∧
    (Check.mappingComplete (normalize (Document.mappedOrders "ORDERS"))).outcome = .pass ∧
    (∀ x ∈ (normalize (Document.mappedOrders "ORDERS")).objects,
      Text.allBlank ((normalize (Document.mappedOrders "ORDERS")).physicalTable x) = false) ∧
    ∀ view, ∀ table ∈ (Model.build (normalize (Document.mappedOrders "ORDERS")) view).tables,
      Text.allBlank table.base.table = false := by
  have valid : (Document.validate (Document.mappedOrders "ORDERS")).isValid = true := by decide
  have passes : (Check.mappingComplete (normalize (Document.mappedOrders "ORDERS"))).outcome = .pass := by decide
  obtain ⟨objects_iff, model_iff, _⟩ := tables_named_iff valid passes
  have named : Document.TablesNamed (Document.mappedOrders "ORDERS") := by
    refine ⟨?_, ?_⟩
    · intro v declared table own
      obtain rfl : v = Document.plainOrder := List.mem_singleton.mp declared
      cases own
    · intro v declared _ name table isName mapped
      obtain rfl : v = Document.plainOrder := List.mem_singleton.mp declared
      obtain rfl : "Order" = name := Option.some.inj isName
      obtain rfl : "ORDERS" = table := Option.some.inj mapped
      decide
  exact ⟨valid, passes, objects_iff.mpr named, fun view => (model_iff view).mpr named⟩

/-- Orders that are mapped to a table without a name pass the check, and no model has a name for their table. -/
theorem nameless_orders_pass :
    (Document.validate (Document.mappedOrders "")).isValid = true ∧
    (Check.mappingComplete (normalize (Document.mappedOrders ""))).outcome = .pass ∧
    (∃ x ∈ (normalize (Document.mappedOrders "")).objects,
      (normalize (Document.mappedOrders "")).physicalTable x = "") ∧
    ∀ view, ∃ table ∈ (Model.build (normalize (Document.mappedOrders "")) view).tables, table.base.table = "" := by
  have valid : (Document.validate (Document.mappedOrders "")).isValid = true := by decide
  have form := Document.DocumentForm.of_findings (Document.findings_of_isValid valid)
  have declared : Document.plainOrder ∈ (Document.mappedOrders "").items "objects" := List.mem_singleton_self _
  have member := form.objects_perm.mem_iff.mpr (List.mem_map_of_mem declared)
  have isName : Document.plainOrder.text? "name" = some "Order" := by decide
  have nameless := form.physicalTable_eq declared isName
  exact ⟨valid, by decide, ⟨_, member, nameless⟩, fun view => ⟨_, List.mem_map_of_mem member, nameless⟩⟩

end SemanticLayer

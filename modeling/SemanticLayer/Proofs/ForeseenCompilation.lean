import SemanticLayer.Evaluation.Check
import SemanticLayer.Proofs.PromotionTargets
import SemanticLayer.Proofs.SqlStatements

/-! What the deployability gate says of a compilation that is still to come. The gate compiles the model and looks into
the script that verifies it; a compilation goes on to write instructions and to assemble a bundle. Nothing of this can
fail: a compilation fails with the error of resolving its target or not at all (`bundle_cases`), and the script always
asks for verification only (`verifyScript_flagged`). Main statement: `compilation_foreseen`. -/
namespace SemanticLayer

theorem Text.containsPart_iff {part cs : List Char} : Text.containsPart part cs = true ↔ part <:+: cs := by
  induction cs with
  | nil => rw [containsPart, List.isEmpty_iff, List.infix_nil]
  | cons c cs ih => rw [containsPart, Bool.or_eq_true, List.isPrefixOf_iff_prefix, ih, List.infix_cons_iff]

/-- Whatever a view and its definition are, the call in the script asks for verification only. -/
theorem Sql.verifyScript_flagged (view : View) (yaml : String) (version : Option Int) :
    Check.verifyFlag <:+: (verifyScript view yaml version).toList := by
  have flag : Check.verifyFlag <:+: Call.flagged ++ Call.closing true := ⟨",\n  ".toList, "\n)".toList, rfl⟩
  have call : Call.flagged ++ Call.closing true <:+: (createCall view yaml true).toList := by
    refine ⟨Call.opening ++ (quoteChars view.qualifiedSchema.toList ++ (Call.between ++ (block yaml).toList)),
      [';', '\n'], ?_⟩
    rw [createCall_chars]
    simp only [List.append_assoc]
  have script : (createCall view yaml true).toList <:+ (verifyScript view yaml version).toList := by
    unfold verifyScript
    rw [String.toList_append]
    exact List.suffix_append _ _
  exact (flag.trans call).trans script.isInfix

namespace Compile

/-- A compilation fails with the error of resolving its target, or gives a bundle of the compiled model. -/
theorem bundle_cases (o : Ontology) (options : CompileOptions) :
    (∃ e, resolveView o options = .error e ∧ model o options = .error e ∧ bundle o options = .error e) ∨
    ∃ view c b, resolveView o options = .ok view ∧ forView o view options.version = .ok c ∧
      model o options = .ok c ∧ bundle o options = .ok b := by
  cases resolved : resolveView o options with
  | error e =>
    have failed : model o options = .error e := by
      unfold model
      rw [resolved]
      rfl
    refine .inl ⟨e, rfl, failed, ?_⟩
    unfold bundle
    rw [failed]
    rfl
  | ok view =>
    have named : Text.allBlank view.name = false := (resolveView_complete resolved).name
    obtain ⟨c, compiled⟩ := forView_isOk o options.version named
    obtain ⟨b, bundled⟩ := bundle_isOk resolved named
    refine .inr ⟨view, c, b, rfl, compiled, ?_, bundled⟩
    unfold model
    rw [resolved]
    exact compiled

end Compile

namespace Check
variable {o : Ontology} {options : CompileOptions}

theorem yamlVerifyPasses_error {e : CompileError} (failed : Compile.model o options = .error e) :
    yamlVerifyPasses o options =
      ⟨.fail, s!"compilation failed: {e.message}", .obj [("error", .str e.message)]⟩ := by
  unfold yamlVerifyPasses
  rw [failed]

theorem yamlVerifyPasses_ok {c : Compiled} (compiled : Compile.model o options = .ok c)
    (flagged : verifyFlag <:+: c.verifySql.toList) :
    yamlVerifyPasses o options = ⟨.pass, s!"verify script rendered for {c.view.qualifiedName}",
      .obj [("target", .str c.view.qualifiedName), ("yaml_bytes", Json.ofNat (Text.byteLength c.yaml))]⟩ := by
  unfold yamlVerifyPasses
  rw [compiled]
  dsimp only
  rw [if_pos (Text.containsPart_iff.mpr flagged)]

end Check

/-- The deployability gate passes just if the ontology compiles to a bundle. The script that it looks into is then the
one of the bundle, which asks for verification only, and it names the target and the size of the model of the
bundle. It fails with the very error of the compilation, which is that of resolving the target. -/
theorem compilation_foreseen (o : Ontology) (options : CompileOptions) :
    ((Check.yamlVerifyPasses o options).outcome = .pass ↔ ∃ b, Compile.bundle o options = .ok b) ∧
    (∀ b, Compile.bundle o options = .ok b → ∃ c, Compile.model o options = .ok c ∧
      b.file? Compile.verifyPath = some ⟨Compile.verifyPath, c.verifySql⟩ ∧
      b.file? Compile.modelPath = some ⟨Compile.modelPath, c.yaml⟩ ∧
      Check.verifyFlag <:+: c.verifySql.toList ∧
      Check.yamlVerifyPasses o options = ⟨.pass, s!"verify script rendered for {c.view.qualifiedName}",
        .obj [("target", .str c.view.qualifiedName), ("yaml_bytes", Json.ofNat (Text.byteLength c.yaml))]⟩) ∧
    (∀ e, Compile.bundle o options = .error e → Compile.resolveView o options = .error e ∧
      Check.yamlVerifyPasses o options =
        ⟨.fail, s!"compilation failed: {e.message}", .obj [("error", .str e.message)]⟩) := by
  rcases Compile.bundle_cases o options with
    ⟨e, unresolved, failed, unbundled⟩ | ⟨view, c, b, resolved, compiled, modelled, bundled⟩
  · have result := Check.yamlVerifyPasses_error failed
    refine ⟨?_, ?_, ?_⟩
    · rw [result, unbundled]
      simp
    · intro b bundled
      cases unbundled.symm.trans bundled
    · intro e' failedToo
      cases unbundled.symm.trans failedToo
      exact ⟨unresolved, result⟩
  · obtain ⟨_, shape⟩ := Compile.forView_ok.mp compiled
    have flagged : Check.verifyFlag <:+: c.verifySql.toList := by
      rw [shape]
      exact Sql.verifyScript_flagged ..
    have result := Check.yamlVerifyPasses_ok modelled flagged
    refine ⟨?_, ?_, ?_⟩
    · rw [result]
      exact iff_of_true rfl ⟨b, bundled⟩
    · intro b' bundledToo
      obtain ⟨view', resolvedToo, model, verify, _⟩ := Compile.scripts_found bundledToo
      cases resolved.symm.trans resolvedToo
      refine ⟨c, modelled, ?_, ?_, flagged, result⟩
      · rw [verify, shape]
      · rw [model, shape]
    · intro e failed
      cases bundled.symm.trans failed

/-- Orders that are stored in a database are foreseen to compile, and without the name of one they are foreseen to
fail for the want of it. -/
theorem priced_orders_foreseen :
    (∃ b, Compile.bundle Sql.pricedOrders ⟨some "orders", none, none, some 3, ⟨0⟩⟩ = .ok b) ∧
    (Check.yamlVerifyPasses Sql.pricedOrders ⟨some "orders", none, none, some 3, ⟨0⟩⟩).outcome = .pass ∧
    Compile.bundle Sql.pricedOrders.unplaced ⟨some "orders", none, none, some 3, ⟨0⟩⟩ = .error .missingDatabase ∧
    (Check.yamlVerifyPasses Sql.pricedOrders.unplaced ⟨some "orders", none, none, some 3, ⟨0⟩⟩).details =
      .obj [("error", .str "no target database given and the document declares no mapping block for it")] := by
  have resolved : Compile.resolveView Sql.pricedOrders ⟨some "orders", none, none, some 3, ⟨0⟩⟩ =
      .ok Sql.ordersView := by decide
  obtain ⟨b, bundled⟩ := Compile.bundle_isOk resolved (by decide)
  have failed : Compile.bundle Sql.pricedOrders.unplaced ⟨some "orders", none, none, some 3, ⟨0⟩⟩ =
      .error .missingDatabase := rfl
  have passes := (compilation_foreseen Sql.pricedOrders ⟨some "orders", none, none, some 3, ⟨0⟩⟩).1.mpr ⟨b, bundled⟩
  obtain ⟨_, result⟩ := (compilation_foreseen Sql.pricedOrders.unplaced _).2.2 _ failed
  refine ⟨⟨b, bundled⟩, passes, failed, ?_⟩
  rw [result]
  rfl

end SemanticLayer

import SemanticLayer.Evaluation.Basic

/-! Evaluations of one ontology under different rules. A threshold changes the status that a gate reports, and a
profile changes which statuses block; together they come to one condition on what the check of the gate gives
(`isBlocking_run`), and that gets no easier to meet when the rules get weaker. Main statement:
`weaker_rules_pass`. -/
namespace SemanticLayer

/-- How strict a threshold is: a required gate is above one that only warns, and that above a skipped one. -/
def Threshold.strictness : Threshold → Nat
  | .skip => 0
  | .warning => 1
  | .required => 2

/-- How strict a profile is. -/
def Profile.strictness : Profile → Nat
  | .relaxed => 0
  | .strict => 1

theorem Threshold.required_of_le {t : Threshold} (le : Threshold.required.strictness ≤ t.strictness) :
    t = .required := by
  cases t with
  | required => rfl
  | warning => exact absurd le (by decide)
  | skip => exact absurd le (by decide)

theorem Profile.strict_of_le {p : Profile} (le : Profile.strict.strictness ≤ p.strictness) : p = .strict := by
  cases p with
  | strict => rfl
  | relaxed => exact absurd le (by decide)

namespace ThresholdProfile

/-- Neither the profile itself nor the threshold of any gate is stricter than with the other rules. -/
structure NotStricter (q p : ThresholdProfile) : Prop where
  profile : q.profile.strictness ≤ p.profile.strictness
  thresholds : ∀ gate, (q.threshold gate).strictness ≤ (p.threshold gate).strictness

/-! ### Overrides -/

/-- A profile with overrides that are made one after the other. -/
def overridden (profile : Profile) (overrides : List (Gate × Threshold)) : ThresholdProfile :=
  overrides.foldl (fun p entry => p.override entry.1 entry.2) (.of profile)

/-- The last override of a gate. -/
def LastOverride (overrides : List (Gate × Threshold)) (gate : Gate) (t : Threshold) : Prop :=
  ∃ earlier later, overrides = earlier ++ (gate, t) :: later ∧ ∀ entry ∈ later, entry.1 ≠ gate

section Overrides
variable {profile : Profile} {overrides : List (Gate × Threshold)} {gate : Gate} {t : Threshold}

theorem foldl_override (p : ThresholdProfile) :
    overrides.foldl (fun p entry => p.override entry.1 entry.2) p =
      ⟨p.profile, overrides.reverse ++ p.overrides⟩ := by
  induction overrides generalizing p with
  | nil => rfl
  | cons entry rest ih =>
    rw [List.foldl_cons, ih]
    simp [override]

theorem overridden_eq : overridden profile overrides = ⟨profile, overrides.reverse⟩ := by
  simp [overridden, foldl_override, of]

/-- An override counts until the next one of its gate. -/
theorem threshold_last (last : LastOverride overrides gate t) :
    (overridden profile overrides).threshold gate = t := by
  obtain ⟨earlier, later, rfl, others⟩ := last
  have none : later.reverse.find? (·.1 = gate) = none :=
    List.find?_eq_none.mpr fun entry member => by simpa using others entry (List.mem_reverse.mp member)
  simp [overridden_eq, threshold, List.find?_append, none]

/-- A gate without overrides has the threshold of the profile. -/
theorem threshold_none (none : ∀ entry ∈ overrides, entry.1 ≠ gate) :
    (overridden profile overrides).threshold gate = profile.threshold gate := by
  have nothing : overrides.reverse.find? (·.1 = gate) = .none :=
    List.find?_eq_none.mpr fun entry member => by simpa using none entry (List.mem_reverse.mp member)
  simp [overridden_eq, threshold, nothing]

theorem lastOverride_or_none (overrides : List (Gate × Threshold)) (gate : Gate) :
    (∃ t, LastOverride overrides gate t) ∨ ∀ entry ∈ overrides, entry.1 ≠ gate := by
  induction overrides with
  | nil => exact .inr (List.forall_mem_nil _)
  | cons entry rest ih =>
    rcases ih with ⟨t, earlier, later, rfl, others⟩ | none
    · exact .inl ⟨t, entry :: earlier, later, rfl, others⟩
    · by_cases own : entry.1 = gate
      · exact .inl ⟨entry.2, [], rest, by rw [← own]; rfl, none⟩
      · exact .inr (List.forall_mem_cons.mpr ⟨own, none⟩)

/-- With the same last overrides, a relaxed profile is not stricter than a strict one. -/
theorem relaxed_notStricter {overrides others : List (Gate × Threshold)}
    (same : ∀ gate t, LastOverride overrides gate t ↔ LastOverride others gate t) :
    (overridden .relaxed others).NotStricter (overridden .strict overrides) where
  profile := by simp [overridden_eq, Profile.strictness]
  thresholds := by
    intro gate
    rcases lastOverride_or_none others gate with ⟨t, last⟩ | none
    · have equal : (overridden .relaxed others).threshold gate = (overridden .strict overrides).threshold gate :=
        (threshold_last last).trans (threshold_last ((same gate t).mpr last)).symm
      exact Nat.le_of_eq (congrArg Threshold.strictness equal)
    · have noneToo : ∀ entry ∈ overrides, entry.1 ≠ gate := by
        refine (lastOverride_or_none overrides gate).resolve_left ?_
        rintro ⟨t, last⟩
        obtain ⟨earlier, later, rfl, _⟩ := (same gate t).mp last
        exact none (gate, t) (by simp) rfl
      rw [threshold_none none, threshold_none noneToo]
      cases gate <;> decide

end Overrides
end ThresholdProfile

/-! ### Gates that block -/

section Blocking
variable {o : Ontology} {version : Int} {options : CompileOptions} {p q : ThresholdProfile} {gate : Gate}

theorem Gate.mem_all (gate : Gate) : gate ∈ all := by
  cases gate <;> decide

namespace GateResult

theorem run_gate : (run o p options gate).gate = gate := by
  unfold run
  dsimp only
  split <;> rfl

/-- A gate blocks if it is required and its check fails, or only warns where the profile is strict. -/
theorem isBlocking_run : (run o p options gate).isBlocking p.profile = true ↔
    p.threshold gate = .required ∧ ((Check.run o options gate).outcome = .fail ∨
      (Check.run o options gate).outcome = .warning ∧ p.profile = .strict) := by
  unfold run isBlocking
  cases threshold : p.threshold gate with
  | required => cases outcome : (Check.run o options gate).outcome <;> simp [statusOf, outcome]
  | warning => simp
  | skip => simp

theorem isBlocking_of_weaker (weaker : q.NotStricter p)
    (blocks : (run o q options gate).isBlocking q.profile = true) :
    (run o p options gate).isBlocking p.profile = true := by
  obtain ⟨required, outcome⟩ := isBlocking_run.mp blocks
  have requiredToo : p.threshold gate = .required := by
    have le := weaker.thresholds gate
    rw [required] at le
    exact Threshold.required_of_le le
  refine isBlocking_run.mpr ⟨requiredToo, outcome.imp_right ?_⟩
  rintro ⟨warned, strict⟩
  have le := weaker.profile
  rw [strict] at le
  exact ⟨warned, Profile.strict_of_le le⟩

end GateResult

namespace Evaluation

theorem mem_blocking : gate ∈ (evaluateWith o version p options).blocking.map GateResult.gate ↔
    (GateResult.run o p options gate).isBlocking p.profile = true := by
  unfold blocking evaluateWith
  dsimp only
  constructor
  · intro listed
    obtain ⟨r, kept, rfl⟩ := List.mem_map.mp listed
    obtain ⟨member, blocks⟩ := List.mem_filter.mp kept
    obtain ⟨gate, _, rfl⟩ := List.mem_map.mp member
    rwa [GateResult.run_gate]
  · intro blocks
    have member := List.mem_map_of_mem (f := GateResult.run o p options) (Gate.mem_all gate)
    exact List.mem_map.mpr ⟨_, List.mem_filter.mpr ⟨member, blocks⟩, GateResult.run_gate⟩

/-- An evaluation passes if no gate blocks. -/
theorem passed_iff : (evaluateWith o version p options).passed = true ↔
    ∀ gate, (GateResult.run o p options gate).isBlocking p.profile = false := by
  unfold evaluateWith
  dsimp only
  rw [Bool.not_eq_true', List.any_map, List.any_eq_false]
  constructor
  · intro none gate
    simpa using none gate (Gate.mem_all gate)
  · intro none gate _
    simpa using none gate

end Evaluation
end Blocking

open ThresholdProfile in
/-- Of two evaluations of an ontology, one under rules that are not stricter: if the other one passes then it
passes too, and only gates that block the other one block it. The last override of a gate is its threshold, so
with the same last overrides an ontology that passes a strict evaluation passes a relaxed one. -/
theorem weaker_rules_pass (o : Ontology) (version : Int) (options : CompileOptions) :
    (∀ p q : ThresholdProfile, q.NotStricter p →
      ((evaluateWith o version p options).passed = true →
        (evaluateWith o version q options).passed = true) ∧
      ∀ gate ∈ (evaluateWith o version q options).blocking.map GateResult.gate,
        gate ∈ (evaluateWith o version p options).blocking.map GateResult.gate) ∧
    (∀ (profile : Profile) (overrides : List (Gate × Threshold)) (gate : Gate),
      (∀ t, LastOverride overrides gate t → (overridden profile overrides).threshold gate = t) ∧
      ((∀ entry ∈ overrides, entry.1 ≠ gate) →
        (overridden profile overrides).threshold gate = profile.threshold gate)) ∧
    (∀ overrides others : List (Gate × Threshold),
      (∀ gate t, LastOverride overrides gate t ↔ LastOverride others gate t) →
      (evaluateWith o version (overridden .strict overrides) options).passed = true →
      (evaluateWith o version (overridden .relaxed others) options).passed = true) := by
  have passes {p q : ThresholdProfile} (weaker : q.NotStricter p)
      (passed : (evaluateWith o version p options).passed = true) :
      (evaluateWith o version q options).passed = true := by
    refine Evaluation.passed_iff.mpr fun gate => Bool.eq_false_iff.mpr fun blocks => ?_
    have free := Evaluation.passed_iff.mp passed gate
    rw [GateResult.isBlocking_of_weaker weaker blocks] at free
    cases free
  refine ⟨fun p q weaker => ⟨passes weaker, fun gate blocks => ?_⟩, ?_, ?_⟩
  · exact Evaluation.mem_blocking.mpr
      (GateResult.isBlocking_of_weaker weaker (Evaluation.mem_blocking.mp blocks))
  · intro profile overrides gate
    exact ⟨fun t last => threshold_last last, threshold_none⟩
  · intro overrides others same
    exact passes (relaxed_notStricter same)

/-- Orders and customers that nothing joins and that are stored in no known place. -/
def unjoinedOrders : Ontology where
  version := "1.0.0"
  name := "sales"
  description := ""
  objects := [⟨"Customer", "", ["id"], [⟨"id", .integer, "", true, false⟩], none, none, none⟩,
    ⟨"Order", "", ["id"], [⟨"id", .integer, "", true, false⟩], none, none, none⟩]
  relationships := []
  metrics := []
  dimensions := []
  mapping := none

/-- Overrides that put up with all of it, the first of which is taken back. -/
def lenientOverrides : List (Gate × Threshold) :=
  [(.connectedJoinGraph, .required), (.mappingComplete, .warning), (.yamlVerifyPasses, .skip),
    (.connectedJoinGraph, .warning)]

open ThresholdProfile in
theorem unjoined_orders_pass : (of .relaxed).NotStricter (of .strict) ∧
    .yamlVerifyPasses ∈ (evaluate unjoinedOrders 1 (of .relaxed)).blocking.map GateResult.gate ∧
    .yamlVerifyPasses ∈ (evaluate unjoinedOrders 1 (of .strict)).blocking.map GateResult.gate ∧
    (evaluate unjoinedOrders 1 (overridden .strict lenientOverrides)).passed = true ∧
    (evaluate unjoinedOrders 1 (overridden .relaxed lenientOverrides)).passed = true := by
  have weaker : (of .relaxed).NotStricter (of .strict) :=
    ⟨by decide, fun gate => by cases gate <;> decide⟩
  have blocks : .yamlVerifyPasses ∈ (evaluate unjoinedOrders 1 (of .relaxed)).blocking.map GateResult.gate :=
    Evaluation.mem_blocking.mpr (by decide)
  have passed : (evaluate unjoinedOrders 1 (overridden .strict lenientOverrides)).passed = true :=
    Evaluation.passed_iff.mpr fun gate => by cases gate <;> decide
  obtain ⟨rules, _, profiles⟩ := weaker_rules_pass unjoinedOrders 1 ⟨none, none, none, some 1, ⟨0⟩⟩
  exact ⟨weaker, blocks, (rules _ _ weaker).2 _ blocks, passed, profiles _ _ (fun _ _ => .rfl) passed⟩

end SemanticLayer

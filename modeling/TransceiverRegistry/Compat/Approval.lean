import TransceiverRegistry.Compat.Agreement

/-!
# Approval

When a decision approves or denies, in terms of the rules it considered. A rule beyond the budget of
the query is dropped before it is evaluated, so an approval holds for all supplied rules exactly
when the dropped rules would not have stood against it. Decided answers survive new evidence.
-/

namespace TransceiverRegistry

open Lib

/-- Every requirement of the rule is satisfied. -/
def CompatRuleRecord.Satisfied (resolver : AttributeResolver) (record : CompatRuleRecord) : Prop :=
  ∀ requirement ∈ record.rule.requirements,
    (evaluateRequirement requirement resolver).state = .satisfied

/-- Some requirement of the rule is undecided. -/
def CompatRuleRecord.Waits (resolver : AttributeResolver) (record : CompatRuleRecord) : Prop :=
  ∃ requirement ∈ record.rule.requirements,
    (evaluateRequirement requirement resolver).state = .indeterminate

/-- The rule denies or does not support the pair. -/
def CompatRuleRecord.Blocks (resolver : AttributeResolver) (record : CompatRuleRecord) : Prop :=
  (record.rule.verdict = .incompatible ∨ record.rule.verdict = .unsupported) ∧
    record.Satisfied resolver

/-- The rule has an undecided requirement and no violated one, so it may still apply. -/
def CompatRuleRecord.MayApply (resolver : AttributeResolver) (record : CompatRuleRecord) : Prop :=
  record.Waits resolver ∧ ∀ requirement ∈ record.rule.requirements,
    (evaluateRequirement requirement resolver).state ≠ .violated

/-- The rule stands against an approval. -/
def CompatRuleRecord.Objects (resolver : AttributeResolver) (record : CompatRuleRecord) : Prop :=
  record.Blocks resolver ∨ record.MayApply resolver

/-- The rule approves the pair. -/
def CompatRuleRecord.Allows (resolver : AttributeResolver) (record : CompatRuleRecord) : Prop :=
  record.rule.verdict = .compatible ∧ record.Satisfied resolver

variable {resolver : AttributeResolver}

/-- The flag of an evaluated rule (source `evaluate_compatibility`, `all_satisfied`). -/
lemma evaluateRule_allSatisfied {record : CompatRuleRecord} :
    (evaluateRule resolver record).allSatisfied = true ↔ record.Satisfied resolver := by
  simp [MatchedRule.allSatisfied, evaluateRule, CompatRuleRecord.Satisfied]

/-- The flag of an evaluated rule (source `evaluate_compatibility`, `any_indeterminate`). -/
lemma evaluateRule_anyIndeterminate {record : CompatRuleRecord} :
    (evaluateRule resolver record).anyIndeterminate = true ↔ record.Waits resolver := by
  simp [MatchedRule.anyIndeterminate, evaluateRule, CompatRuleRecord.Waits]

/-- A satisfied rule does not wait. -/
lemma CompatRuleRecord.Satisfied.not_waits {record : CompatRuleRecord}
    (satisfied : record.Satisfied resolver) : ¬ record.Waits resolver := by
  rintro ⟨requirement, member, waits⟩
  rw [satisfied requirement member] at waits
  cases waits

/-- One more rule goes into at most one bucket (source `evaluate_compatibility`, the loop). -/
lemma RuleScan.add_buckets (resolver : AttributeResolver) (scan : RuleScan)
    (record : CompatRuleRecord) :
    let scan' := scan.add (evaluateRule resolver record)
    (scan'.denies ≠ [] ↔ scan.denies ≠ [] ∨
      record.rule.verdict = .incompatible ∧ record.Satisfied resolver) ∧
    (scan'.unsupported ≠ [] ↔ scan.unsupported ≠ [] ∨
      record.rule.verdict = .unsupported ∧ record.Satisfied resolver) ∧
    (scan'.allows ≠ [] ↔ scan.allows ≠ [] ∨ record.Allows resolver) ∧
    (scan'.indeterminate ≠ [] ↔ scan.indeterminate ≠ [] ∨ record.Waits resolver) := by
  have verdict : (evaluateRule resolver record).verdict = record.rule.verdict := rfl
  unfold RuleScan.add CompatRuleRecord.Allows
  simp only [verdict]
  by_cases satisfied : record.Satisfied resolver
  · have waits := satisfied.not_waits
    rw [if_pos (evaluateRule_allSatisfied.2 satisfied)]
    cases record.rule.verdict <;> simp [satisfied, waits]
  · rw [if_neg (mt evaluateRule_allSatisfied.1 satisfied)]
    by_cases waits : record.Waits resolver
    · rw [if_pos (evaluateRule_anyIndeterminate.2 waits)]
      simp [satisfied, waits]
    · rw [if_neg (mt evaluateRule_anyIndeterminate.1 waits)]
      simp [satisfied, waits]

/-- A bucket is filled by a rule that was considered (source `evaluate_compatibility`, the
loop). -/
lemma scanRules_buckets (resolver : AttributeResolver) (considered : List CompatRuleRecord) :
    let scan := scanRules resolver considered
    (scan.denies ≠ [] ↔ ∃ record ∈ considered,
      record.rule.verdict = .incompatible ∧ record.Satisfied resolver) ∧
    (scan.unsupported ≠ [] ↔ ∃ record ∈ considered,
      record.rule.verdict = .unsupported ∧ record.Satisfied resolver) ∧
    (scan.allows ≠ [] ↔ ∃ record ∈ considered, record.Allows resolver) ∧
    (scan.indeterminate ≠ [] ↔ ∃ record ∈ considered, record.Waits resolver) := by
  induction considered using List.reverseRecOn with
  | nil => simp [scanRules]
  | append_singleton rest record ih =>
    simp only [scanRules, List.foldl_append, List.foldl_cons, List.foldl_nil] at ih ⊢
    obtain ⟨denies, unsupported, allows, waits⟩ := RuleScan.add_buckets resolver
      (rest.foldl (fun scan record => scan.add (evaluateRule resolver record)) {}) record
    rw [denies, unsupported, allows, waits, ih.1, ih.2.1, ih.2.2.1, ih.2.2.2]
    simp only [List.mem_append, List.mem_singleton, or_and_right, exists_or, exists_eq_left,
      and_self]

section Outcome

variable [StdSort] {query : CompatQuery} {rules : List CompatRuleRecord} {generation : Generation}
  {now : WallNs} {domain : ClockDomainId}

/-- The rules considered are some of the live, enabled ones (source `evaluate_compatibility`,
`ordered`). -/
lemma mem_orderedRules {record : CompatRuleRecord} :
    record ∈ orderedRules rules ↔ record ∈ rules ∧ record.applies = true := by
  unfold orderedRules
  rw [(StdSort.perm _ _).mem_iff, List.mem_filter]

/-- A decision denies when a considered rule denies (source `evaluate_compatibility`). -/
lemma outcome_incompatible_iff :
    (evaluateCompatibility query rules resolver generation now domain).outcome = .incompatible ↔
      ∃ record ∈ consideredRules query rules,
        record.rule.verdict = .incompatible ∧ record.Satisfied resolver := by
  rw [← (scanRules_buckets resolver (consideredRules query rules)).1]
  simp only [evaluateCompatibility, RuleScan.verdict]
  split <;> rename_i denied
  · simp [denied]
  · simp only [denied, iff_false]
    split
    · simp
    · split <;> simp

/-- A decision approves when a considered rule allows and none blocks or waits
(source `evaluate_compatibility`). -/
lemma outcome_compatible_iff :
    (evaluateCompatibility query rules resolver generation now domain).outcome = .compatible ↔
      (∃ record ∈ consideredRules query rules, record.Allows resolver) ∧
      ∀ record ∈ consideredRules query rules,
        ¬ record.Blocks resolver ∧ ¬ record.Waits resolver := by
  obtain ⟨denies, unsupported, allows, waits⟩ :=
    scanRules_buckets resolver (consideredRules query rules)
  have split : (∀ record ∈ consideredRules query rules,
      ¬ record.Blocks resolver ∧ ¬ record.Waits resolver) ↔
      ¬ (∃ record ∈ consideredRules query rules,
        record.rule.verdict = .incompatible ∧ record.Satisfied resolver) ∧
      ¬ (∃ record ∈ consideredRules query rules,
        record.rule.verdict = .unsupported ∧ record.Satisfied resolver) ∧
      ¬ ∃ record ∈ consideredRules query rules, record.Waits resolver := by
    simp only [CompatRuleRecord.Blocks, or_and_right, not_or, not_exists, not_and]
    constructor
    · intro h
      exact ⟨fun record member => (h record member).1.1, fun record member =>
        (h record member).1.2, fun record member => (h record member).2⟩
    · rintro ⟨h1, h2, h3⟩ record member
      exact ⟨⟨h1 record member, h2 record member⟩, h3 record member⟩
  rw [split, ← denies, ← unsupported, ← allows, ← waits]
  simp only [evaluateCompatibility, RuleScan.verdict, not_not]
  split <;> rename_i denied
  · simp [denied]
  · rw [not_not] at denied
    split <;> rename_i refused
    · simp [refused]
    · rw [not_not] at refused
      split <;> rename_i approved
      · simp [denied, refused, approved]
      · simp only [denied, refused, true_and, reduceCtorEq, false_iff]
        exact approved

/-- The rules beyond the budget of a query, which are not evaluated (source
`evaluate_compatibility`, `ordered.resize`). -/
def droppedRules (query : CompatQuery) (rules : List CompatRuleRecord) : List CompatRuleRecord :=
  (orderedRules rules).drop query.maxRules.toNat

/-- An approval ignores no live, enabled rule that stands against it exactly when the budget drops
no such rule, or the rules within the budget do not approve: one of them blocks or waits, or none of
them allows (source `evaluate_compatibility`). -/
theorem approval_ignores_no_objection_iff :
    ((evaluateCompatibility query rules resolver generation now domain).outcome = .compatible →
      ∀ record ∈ rules, record.applies = true → ¬ record.Objects resolver) ↔
    (∀ record ∈ droppedRules query rules, ¬ record.Objects resolver) ∨
    (∃ record ∈ consideredRules query rules, record.Blocks resolver ∨ record.Waits resolver) ∨
    ∀ record ∈ consideredRules query rules, ¬ record.Allows resolver := by
  have parts (record : CompatRuleRecord) : record ∈ orderedRules rules ↔
      record ∈ consideredRules query rules ∨ record ∈ droppedRules query rules := by
    rw [← List.mem_append, consideredRules, droppedRules, List.take_append_drop]
  rw [outcome_compatible_iff]
  constructor
  · intro h
    by_cases approves : (∃ record ∈ consideredRules query rules, record.Allows resolver) ∧
        ∀ record ∈ consideredRules query rules, ¬ record.Blocks resolver ∧ ¬ record.Waits resolver
    · refine .inl fun record dropped => ?_
      obtain ⟨member, applies⟩ := mem_orderedRules.1 ((parts record).2 (.inr dropped))
      exact h approves record member applies
    · refine .inr ?_
      by_contra other
      simp only [not_or, not_exists, not_and, not_forall, not_not] at other
      obtain ⟨quiet, record, member, allows⟩ := other
      exact approves ⟨⟨record, member, allows⟩, fun r m => quiet r m⟩
  · rintro harmless ⟨⟨allowing, considered, allows⟩, quiet⟩ record member applies
    obtain here | dropped := (parts record).1 (mem_orderedRules.2 ⟨member, applies⟩)
    · rintro (blocks | ⟨waits, _⟩)
      · exact (quiet record here).1 blocks
      · exact (quiet record here).2 waits
    · obtain harmless | ⟨r, m, blocks | waits⟩ | none := harmless
      · exact harmless record dropped
      · exact absurd blocks (quiet r m).1
      · exact absurd waits (quiet r m).2
      · exact absurd allows (none allowing considered)

end Outcome

/-- A rule about the lane count of the module with a verdict and a priority. -/
def laneCountRule (id : RuleId) (verdict : CompatVerdict) (priority : Int32) :
    CompatRuleRecord where
  id
  rule := { powerClassRule with
    requirements := [{
      subject := .module, key := .laneCount, subkey := [], op := .atMost
      operand := .count 4, note := [] }]
    verdict, priority }
  source := 1
  sourceEpoch := 1
  generation := 1
  sequence := 1
  live := true

/-- A query with a budget of one rule. -/
def narrowQuery : CompatQuery where
  port := TextKey.none
  uid := 1
  incarnation := 1
  maxRules := 1

/-- A rule that allows with a high priority pushes a satisfied deny rule out of the budget, and the
decision approves (source `evaluate_compatibility`, `ordered.resize`). -/
theorem approval_over_dropped_deny :
    ∃ record ∈ [laneCountRule 1 .compatible 10, laneCountRule 2 .incompatible 0],
      record.applies = true ∧ record.rule.verdict = .incompatible ∧
      (∀ requirement ∈ record.rule.requirements,
        (evaluateRequirement requirement sampleResolver).state = .satisfied) ∧
      (evaluateCompatibility narrowQuery
        [laneCountRule 1 .compatible 10, laneCountRule 2 .incompatible 0] sampleResolver 1 0
        0).outcome = .compatible := by
  refine ⟨laneCountRule 2 .incompatible 0, by simp, rfl, rfl, ?_, by decide +kernel⟩
  intro requirement member
  obtain rfl := List.mem_singleton.1 member
  decide +kernel

/-- Every attribute established by the first resolver is established by the second one with the same
value. -/
def AttributeResolver.ExtendedBy (resolver resolver' : AttributeResolver) : Prop :=
  ∀ subject key subkey value, resolver.Establishes subject key subkey value →
    resolver'.Establishes subject key subkey value

/-- The state of a requirement depends on the requirement and the observed value only
(source `apply_operator`). -/
lemma applyOperator_state_eq {requirement : Requirement} {value : CapabilityValue}
    {evaluation evaluation' : RequirementEvaluation}
    (same : evaluation.requirement = evaluation'.requirement) :
    (applyOperator requirement value evaluation).state =
      (applyOperator requirement value evaluation').state := by
  have bySets (satisfied : Option Bool) (yes no undecided : String) :
      (evaluation.bySets satisfied yes no undecided).state =
        (evaluation'.bySets satisfied yes no undecided).state := by
    cases satisfied <;> rfl
  have byNumbers (compared : Binary64 → Binary64 → Bool) (op : String) :
      (evaluation.byNumbers value compared op).state =
        (evaluation'.byNumbers value compared op).state := by
    unfold RequirementEvaluation.byNumbers
    rw [same]
    split <;> rfl
  unfold applyOperator
  split <;> first | rfl | exact bySets _ _ _ _ | exact byNumbers _ _

/-- A decided requirement keeps its state under more evidence (source `evaluate_requirement`). -/
lemma AttributeResolver.ExtendedBy.state_eq {resolver resolver' : AttributeResolver}
    (more : resolver.ExtendedBy resolver') {requirement : Requirement}
    (decided : (evaluateRequirement requirement resolver).state ≠ .indeterminate) :
    (evaluateRequirement requirement resolver').state =
      (evaluateRequirement requirement resolver).state := by
  obtain ⟨value, known⟩ := establishes_of_decided decided
  obtain ⟨evaluation, same, answer⟩ := evaluateRequirement_state known
  obtain ⟨evaluation', same', answer'⟩ := evaluateRequirement_state (more _ _ _ _ known)
  rw [answer, answer']
  exact applyOperator_state_eq (same'.trans same.symm)

/-- A satisfied rule stays satisfied under more evidence. -/
lemma CompatRuleRecord.Satisfied.extend {resolver resolver' : AttributeResolver}
    (more : resolver.ExtendedBy resolver') {record : CompatRuleRecord}
    (satisfied : record.Satisfied resolver) : record.Satisfied resolver' := by
  intro requirement member
  have here := satisfied requirement member
  rw [more.state_eq (by simp [here]), here]

/-- A rule that does not wait has the same states under more evidence. -/
lemma AttributeResolver.ExtendedBy.states_eq {resolver resolver' : AttributeResolver}
    (more : resolver.ExtendedBy resolver') {record : CompatRuleRecord}
    (settled : ¬ record.Waits resolver) {requirement : Requirement}
    (member : requirement ∈ record.rule.requirements) :
    (evaluateRequirement requirement resolver').state =
      (evaluateRequirement requirement resolver).state :=
  more.state_eq fun waits => settled ⟨requirement, member, waits⟩

/-- An approval and a denial survive new evidence, whatever the budget of the query
(source `evaluate_compatibility`). -/
theorem decided_answer_extends [StdSort] {query : CompatQuery} {rules : List CompatRuleRecord}
    {resolver resolver' : AttributeResolver} {generation generation' : Generation}
    {now now' : WallNs} {domain domain' : ClockDomainId}
    (more : resolver.ExtendedBy resolver') :
    ((evaluateCompatibility query rules resolver generation now domain).outcome = .compatible →
      (evaluateCompatibility query rules resolver' generation' now' domain').outcome =
        .compatible) ∧
    ((evaluateCompatibility query rules resolver generation now domain).outcome = .incompatible →
      (evaluateCompatibility query rules resolver' generation' now' domain').outcome =
        .incompatible) := by
  simp only [outcome_compatible_iff, outcome_incompatible_iff]
  constructor
  · rintro ⟨⟨allowing, considered, verdict, satisfied⟩, quiet⟩
    refine ⟨⟨allowing, considered, verdict, satisfied.extend more⟩, fun record member => ?_⟩
    obtain ⟨blocks, settled⟩ := quiet record member
    constructor
    · rintro ⟨verdict, satisfied⟩
      refine blocks ⟨verdict, fun requirement here => ?_⟩
      rw [← more.states_eq settled here]
      exact satisfied requirement here
    · rintro ⟨requirement, here, waits⟩
      rw [more.states_eq settled here] at waits
      exact settled ⟨requirement, here, waits⟩
  · rintro ⟨record, considered, verdict, satisfied⟩
    exact ⟨record, considered, verdict, satisfied.extend more⟩

/-- Resolvers that establish the same values leave every requirement in the same state
(source `evaluate_requirement`). -/
lemma AttributeResolver.ExtendedBy.states {resolver resolver' : AttributeResolver}
    (more : resolver.ExtendedBy resolver') (less : resolver'.ExtendedBy resolver)
    (requirement : Requirement) : (evaluateRequirement requirement resolver').state =
      (evaluateRequirement requirement resolver).state := by
  by_cases waits : (evaluateRequirement requirement resolver).state = .indeterminate
  · by_contra differ
    rw [waits] at differ
    have same := less.state_eq differ
    rw [waits] at same
    exact differ same.symm
  · exact more.state_eq waits

/-- The outcome and the closure of a scan (source `evaluate_compatibility`, the branches on the
buckets). -/
def RuleScan.answer (scan : RuleScan) : CompatOutcome × KnowledgeClosure :=
  (scan.verdict.1, scan.verdict.2.1)

/-- The buckets decide by their being empty or not (source `evaluate_compatibility`, the branches on
the buckets). -/
lemma RuleScan.answer_congr {scan scan' : RuleScan} (denies : scan.denies ≠ [] ↔ scan'.denies ≠ [])
    (unsupported : scan.unsupported ≠ [] ↔ scan'.unsupported ≠ [])
    (allows : scan.allows ≠ [] ↔ scan'.allows ≠ [])
    (waits : scan.indeterminate ≠ [] ↔ scan'.indeterminate ≠ []) :
    scan.answer = scan'.answer := by
  have settled : scan.indeterminate = [] ↔ scan'.indeterminate = [] := not_iff_not.1 waits
  simp only [answer, verdict, denies, unsupported, allows, settled]
  split
  · rfl
  · split
    · rfl
    · split <;> rfl

/-- The outcome is what the buckets decide (source `evaluate_compatibility`). -/
lemma outcome_eq [StdSort] {query : CompatQuery} {rules : List CompatRuleRecord}
    {resolver : AttributeResolver} {generation : Generation} {now : WallNs}
    {domain : ClockDomainId} :
    (evaluateCompatibility query rules resolver generation now domain).outcome =
      (scanRules resolver (consideredRules query rules)).answer.1 := rfl

/-- The closure is what the buckets decide (source `evaluate_compatibility`). -/
lemma closure_eq [StdSort] {query : CompatQuery} {rules : List CompatRuleRecord}
    {resolver : AttributeResolver} {generation : Generation} {now : WallNs}
    {domain : ClockDomainId} :
    (evaluateCompatibility query rules resolver generation now domain).closure =
      (scanRules resolver (consideredRules query rules)).answer.2 := rfl

/-- Resolvers that establish the same values give the same outcome
(source `evaluate_compatibility`). -/
lemma outcome_congr [StdSort] {query : CompatQuery} {rules : List CompatRuleRecord}
    {resolver resolver' : AttributeResolver} {generation generation' : Generation}
    {now now' : WallNs} {domain domain' : ClockDomainId}
    (more : resolver.ExtendedBy resolver') (less : resolver'.ExtendedBy resolver) :
    (evaluateCompatibility query rules resolver generation now domain).outcome =
      (evaluateCompatibility query rules resolver' generation' now' domain').outcome := by
  have satisfied (record : CompatRuleRecord) :
      record.Satisfied resolver' ↔ record.Satisfied resolver := by
    simp only [CompatRuleRecord.Satisfied, more.states less]
  have waits (record : CompatRuleRecord) : record.Waits resolver' ↔ record.Waits resolver := by
    simp only [CompatRuleRecord.Waits, more.states less]
  have here := scanRules_buckets resolver (consideredRules query rules)
  have there := scanRules_buckets resolver' (consideredRules query rules)
  simp only [satisfied, waits, CompatRuleRecord.Allows] at here there
  have answer := RuleScan.answer_congr (here.1.trans there.1.symm) (here.2.1.trans there.2.1.symm)
    (here.2.2.1.trans there.2.2.1.symm) (here.2.2.2.trans there.2.2.2.symm)
  rw [outcome_eq, outcome_eq, answer]

/-- Resolves the attributes of the module only. -/
def moduleResolver : AttributeResolver :=
  sampleResolver.map fun resolve subject key subkey =>
    if subject = .module then resolve subject key subkey else none

/-- Resolving the port as well extends the resolver of the module. -/
lemma moduleResolver_extendedBy : moduleResolver.ExtendedBy sampleResolver := by
  rintro subject key subkey value ⟨resolve, answer, e, found, established, rfl⟩
  cases e
  refine ⟨_, answer, rfl, ?_, established, rfl⟩
  cases subject with
  | module => exact found
  | port => simp at found

/-- The rule on the lane count of the module approves before and after the port is known. -/
theorem decided_answer_extends_lane_count :
    (evaluateCompatibility narrowQuery [laneCountRule 1 .compatible 10] moduleResolver 1 0
      0).outcome = .compatible ∧
    (evaluateCompatibility narrowQuery [laneCountRule 1 .compatible 10] sampleResolver 2 5
      0).outcome = .compatible := by
  have before : (evaluateCompatibility narrowQuery [laneCountRule 1 .compatible 10]
      moduleResolver 1 0 0).outcome = .compatible := by decide +kernel
  exact ⟨before, (decided_answer_extends moduleResolver_extendedBy).1 before⟩

end TransceiverRegistry

import TransceiverRegistry.Compat.Decision

/-!
# Rule validation and rule evaluation

Which requirements of an accepted rule are decided by established, valid evidence. The validation
accepts requirements that the evaluation leaves undecided whatever the evidence says: set operators
over an enumeration or over wavelengths, and comparisons of a key that is not a number.
-/

namespace TransceiverRegistry

open Lib

/-- Every attribute the rule names is established with a value that is valid for its key. -/
def AttributeResolver.Supplies (resolver : AttributeResolver) (rule : CompatRule) : Prop :=
  ∀ requirement ∈ rule.requirements, ∃ value,
    resolver.Establishes requirement.subject requirement.key requirement.subkey value ∧
    value.validateFor requirement.key = .ok ()

/-- The shape can be compared as a set (source `sets_intersect`, `set_contains`). -/
def comparableSetKind (kind : CapabilityValueKind) : Bool := kind = .enumSet ∨ kind = .textSet

/-- The shape is a number (source `CapabilityValue::number_as_double`). -/
def numberKind (kind : CapabilityValueKind) : Bool := kind = .count ∨ kind = .real

/-- The operator of the requirement decides about the values of its key. -/
def Requirement.decidable (requirement : Requirement) : Bool :=
  match requirement.op with
  | .equals | .notEquals => true
  | .in_ | .notIn | .supersetOf | .subsetOf | .overlaps | .disjointFrom =>
    comparableSetKind (capabilityValueKind requirement.key)
  | .atMost | .atLeast => numberKind (capabilityValueKind requirement.key)
  | .unknown => false

/-- A valid value has the shape of its key (source `CapabilityValue::validate_for`). -/
lemma CapabilityValue.kind_of_validateFor {value : CapabilityValue} {key : CapabilityKey}
    (valid : value.validateFor key = .ok ()) : value.kind = capabilityValueKind key := by
  simp only [validateFor, refuseIf_bind_eq_ok, not_not] at valid
  exact valid.2.1

/-- Sets are compared when they have one shape that can be compared (source `set_contains`). -/
lemma setContains_eq_none {a b : CapabilityValue} :
    setContains a b = none ↔ ¬ (a.kind = b.kind ∧ comparableSetKind a.kind = true) := by
  cases a <;> cases b <;> simp [setContains, CapabilityValue.kind, comparableSetKind]

/-- Sets are compared when they have one shape that can be compared (source `sets_intersect`). -/
lemma setsIntersect_eq_none {a b : CapabilityValue} :
    setsIntersect a b = none ↔ ¬ (a.kind = b.kind ∧ comparableSetKind a.kind = true) := by
  cases a <;> cases b <;> simp [setsIntersect, CapabilityValue.kind, comparableSetKind]

/-- The counts and the reals are numbers (source `CapabilityValue::number_as_double`). -/
lemma CapabilityValue.numberAsDouble_eq_none {value : CapabilityValue} :
    value.numberAsDouble = Option.none ↔ numberKind value.kind = false := by
  cases value <;> simp [numberAsDouble, kind, numberKind]

/-- An answer decides a requirement. -/
lemma RequirementEvaluation.decided_state (evaluation : RequirementEvaluation) (satisfied : Bool)
    (yes no : String) : (evaluation.decided satisfied yes no).state ≠ .indeterminate := by
  unfold decided
  cases satisfied <;> simp

/-- A comparison of sets decides a requirement when the sets can be compared. -/
lemma RequirementEvaluation.bySets_state {evaluation : RequirementEvaluation}
    {satisfied : Option Bool} {yes no undecided : String} :
    (evaluation.bySets satisfied yes no undecided).state = .indeterminate ↔ satisfied = none := by
  cases satisfied with
  | none => simp [bySets, indeterminate]
  | some satisfied => simpa [bySets] using decided_state evaluation satisfied yes no

/-- A comparison of numbers decides a requirement when both sides are numbers. -/
lemma RequirementEvaluation.byNumbers_state {evaluation : RequirementEvaluation}
    {observed : CapabilityValue} {compared : Binary64 → Binary64 → Bool} {op : String} :
    (evaluation.byNumbers observed compared op).state = .indeterminate ↔
      numberKind observed.kind = false ∨
        numberKind evaluation.requirement.operand.kind = false := by
  simp only [← CapabilityValue.numberAsDouble_eq_none, byNumbers]
  cases observed.numberAsDouble with
  | none => simp [indeterminate]
  | some left =>
    cases evaluation.requirement.operand.numberAsDouble with
    | none => simp [indeterminate]
    | some right =>
      simp only [reduceCtorEq, or_self, iff_false]
      split <;> simp

/-- The operand of an accepted set operator is a set of the shape of the key, or an enumeration set
for an enumeration (source `validate_rule`). -/
lemma set_operand_of_validate {requirement : Requirement} {e e' : Error}
    (valid : (do
      refuseIf (isSetKind requirement.operand.kind = false) e
      refuseIf (capabilityValueKind requirement.key ≠ requirement.operand.kind ∧
        ¬ (capabilityValueKind requirement.key = .enum ∧ requirement.operand.kind = .enumSet))
        e' : Result Unit) = .ok ()) :
    isSetKind requirement.operand.kind = true ∧
      (comparableSetKind (capabilityValueKind requirement.key) = true →
        capabilityValueKind requirement.key = requirement.operand.kind) := by
  simp only [refuseIf_bind_eq_ok, refuseIf_eq_ok, Bool.not_eq_false] at valid
  refine ⟨valid.1, fun comparable => ?_⟩
  by_contra differ
  refine valid.2 ⟨differ, fun ⟨isEnum, _⟩ => ?_⟩
  simp [comparableSetKind, isEnum] at comparable

/-- An accepted requirement on a value of its key is decided exactly when its operator decides about
the values of the key (source `apply_operator`). -/
lemma applyOperator_state {requirement : Requirement} {value : CapabilityValue}
    {evaluation : RequirementEvaluation} (same : evaluation.requirement = requirement)
    (accepted : validateRequirement requirement = .ok ())
    (kind : value.kind = capabilityValueKind requirement.key) :
    (applyOperator requirement value evaluation).state ≠ .indeterminate ↔
      requirement.decidable = true := by
  simp only [validateRequirement, bind_eq_ok, refuseIf_eq_ok] at accepted
  obtain ⟨_, _, _, known, _, operand, _⟩ := accepted
  unfold validateOperand at operand
  unfold applyOperator Requirement.decidable
  cases op : requirement.op <;> rw [op] at operand <;> simp only at operand ⊢
  case unknown => exact absurd op known
  case equals | notEquals => simp [RequirementEvaluation.decided_state]
  case in_ | notIn | subsetOf =>
    obtain ⟨_, shape⟩ := set_operand_of_validate operand
    simp only [ne_eq, RequirementEvaluation.bySets_state, Option.map_eq_none_iff,
      setContains_eq_none, not_not, kind]
    constructor
    · rintro ⟨same, comparable⟩
      rwa [same] at comparable
    · intro comparable
      rw [← shape comparable]
      exact ⟨rfl, comparable⟩
  case supersetOf =>
    obtain ⟨_, shape⟩ := set_operand_of_validate operand
    simp only [ne_eq, RequirementEvaluation.bySets_state, setContains_eq_none, not_not, kind]
    exact ⟨fun h => h.2, fun comparable => ⟨shape comparable, comparable⟩⟩
  case overlaps | disjointFrom =>
    obtain ⟨_, shape⟩ := set_operand_of_validate operand
    simp only [ne_eq, RequirementEvaluation.bySets_state, Option.map_eq_none_iff,
      setsIntersect_eq_none, not_not, kind]
    exact ⟨fun h => h.2, fun comparable => ⟨shape comparable, comparable⟩⟩
  case atMost | atLeast =>
    have number : numberKind requirement.operand.kind = true := by
      simp only [refuseIf_eq_ok, not_and_or, not_not] at operand
      simpa [numberKind] using operand
    simp [RequirementEvaluation.byNumbers_state, same, number, kind]

/-- Some valid value of a key of this shape. -/
def sampleValue : CapabilityValueKind → CapabilityValue
  | .none => .none
  | .boolean => .boolean true
  | .count => .count 0
  | .enum => .enumeration 0
  | .real => .real (.ofInt 0)
  | .text => .text []
  | .enumSet => .enumSet ⟨[], .nil⟩
  | .textSet => .textSet ⟨[], .nil⟩
  | .spectrum => .spectrum ⟨[], fun _ => .nil⟩

/-- The sample value of a modelled key is valid (source `CapabilityValue::validate_for`). -/
lemma sampleValue_validateFor {key : CapabilityKey} (known : key ≠ .unknown)
    (supported : key ≠ .unsupported) :
    (sampleValue (capabilityValueKind key)).validateFor key = .ok () := by
  cases key <;> first | exact absurd rfl known | exact absurd rfl supported | decide +kernel

/-- Resolves every attribute to the sample value of its key. -/
def sampleResolver : AttributeResolver := some fun _ key subkey => some {
  key, subkey, outcome := .singleSource, hasValue := true
  value := sampleValue (capabilityValueKind key), declarations := [], superseded := []
  digest := Digest.zero }

/-- An accepted rule is decided by all established, valid evidence exactly when each of its
operators decides about the values of its key (source `validate_rule`, `evaluate_requirement`). -/
theorem evaluation_decides_iff {rule : CompatRule} (accepted : validateRule rule = .ok ()) :
    (∀ resolver : AttributeResolver, resolver.Supplies rule →
      ∀ requirement ∈ rule.requirements,
        (evaluateRequirement requirement resolver).state ≠ .indeterminate) ↔
    ∀ requirement ∈ rule.requirements, requirement.decidable = true := by
  simp only [validateRule, refuseIf_bind_eq_ok, forEach_eq_ok] at accepted
  have each := accepted.2.2.2.2
  constructor
  · intro decided requirement member
    have supplied : sampleResolver.Supplies rule := by
      intro requirement member
      have valid := each requirement member
      simp only [validateRequirement, refuseIf_bind_eq_ok, not_or] at valid
      exact ⟨_, ⟨_, _, rfl, rfl, rfl, rfl⟩, sampleValue_validateFor valid.1.1 valid.1.2⟩
    obtain ⟨value, known, valid⟩ := supplied requirement member
    obtain ⟨evaluation, same, answer⟩ := evaluateRequirement_state known
    have here := decided sampleResolver supplied requirement member
    rw [answer] at here
    exact (applyOperator_state same (each requirement member)
      (CapabilityValue.kind_of_validateFor valid)).1 here
  · intro decidable resolver supplied requirement member
    obtain ⟨value, known, valid⟩ := supplied requirement member
    obtain ⟨evaluation, same, answer⟩ := evaluateRequirement_state known
    rw [answer]
    exact (applyOperator_state same (each requirement member)
      (CapabilityValue.kind_of_validateFor valid)).2 (decidable requirement member)

/-- A rule that approves the modules of two power classes: membership of an enumeration in an
enumeration set. -/
def powerClassRule : CompatRule where
  name := text "power class in the allowed set"
  requirements := [{
    subject := .module, key := .powerClass, subkey := [], op := .in_
    operand := .enumSet ⟨[1, 2], by decide⟩, note := [] }]
  verdict := .compatible
  priority := 0
  rationale := []
  provenance := ⟨.synthetic, text "lab", [], Digest.zero, []⟩
  enabled := true

/-- The membership rule is accepted, its attribute is established with a valid value, and its
requirement is undecided (source `set_contains`). -/
theorem membership_undecided :
    validateRule powerClassRule = .ok () ∧ sampleResolver.Supplies powerClassRule ∧
      ∃ requirement ∈ powerClassRule.requirements,
        requirement.op = .in_ ∧ capabilityValueKind requirement.key = .enum ∧
        requirement.operand.kind = .enumSet ∧
        (evaluateRequirement requirement sampleResolver).state = .indeterminate := by
  refine ⟨by decide +kernel, ?_, _, List.mem_singleton.2 rfl, rfl, rfl, rfl, rfl⟩
  intro requirement member
  obtain rfl := List.mem_singleton.1 member
  exact ⟨_, ⟨_, _, rfl, rfl, rfl, rfl⟩, by decide +kernel⟩

/-- The rule that asks for a lane count of at most four has no undecided requirement. -/
theorem evaluation_decides_lane_count :
    ∃ rule : CompatRule, validateRule rule = .ok () ∧
      ∀ resolver : AttributeResolver, resolver.Supplies rule →
        ∀ requirement ∈ rule.requirements,
          (evaluateRequirement requirement resolver).state ≠ .indeterminate := by
  refine ⟨{ powerClassRule with requirements := [{
    subject := .module, key := .laneCount, subkey := [], op := .atMost
    operand := .count 4, note := [] }] }, by decide +kernel, ?_⟩
  refine (evaluation_decides_iff (by decide +kernel)).2 ?_
  simp [Requirement.decidable, capabilityValueKind, numberKind]

end TransceiverRegistry

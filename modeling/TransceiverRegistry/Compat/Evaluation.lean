import TransceiverRegistry.Model.Compatibility
import TransceiverRegistry.Model.Consensus
import Mathlib.Data.Nat.Log

/-!
# Evaluation of one requirement

Port of `evaluate_requirement` of `compatibility.cpp` and of the operators it applies. A comparison
of two sets answers with nothing when the source clears its `comparable` flag.
-/

namespace TransceiverRegistry

open Lib

/-- Three-valued outcome of a requirement (source `RequirementState`). -/
inductive RequirementState where
  | satisfied | violated | indeterminate
deriving DecidableEq

/-- A requirement and what the evidence says about it (source `RequirementEvaluation`). -/
structure RequirementEvaluation where
  requirement : Requirement
  state : RequirementState
  consensus : ConsensusOutcome
  hasObserved : Bool
  observed : CapabilityValue
  detail : Bytes

/-- Reads one attribute of one subject; an empty function resolves nothing
(source `AttributeResolver`). -/
abbrev AttributeResolver :=
  Option (RequirementSubject → CapabilityKey → Bytes → Option CapabilityConsensus)

/-- The quotient of two numbers, rounded to nearest, ties to even. -/
def divideToEven (n d : Nat) : Nat :=
  if d < 2 * (n % d) ∨ (2 * (n % d) = d ∧ n / d % 2 = 1) then n / d + 1 else n / d

/-- The six leading decimal digits of `n` multiples of `2 ^ (-1074)` and the exponent of the first
one. -/
def leadingDigits (n : Nat) : Nat × Int :=
  let exponent : Int := (Nat.log 10 (n * 10 ^ 400 / 2 ^ 1074) : Int) - 400
  let digits := divideToEven (n * 10 ^ (5 - exponent).toNat) (2 ^ 1074 * 10 ^ (exponent - 5).toNat)
  if digits = 10 ^ 6 then (10 ^ 5, exponent + 1) else (digits, exponent)

/-- A fraction without its trailing zeros, after its point. -/
def fractionText (digits : Bytes) : Bytes :=
  let kept := (digits.reverse.dropWhile (· = 0x30)).reverse
  if kept = [] then [] else text "." ++ kept

/-- A number with six significant digits, as `%.6g` prints it (source `format_number`). -/
def formatNumber (x : Binary64) : Bytes :=
  let sign := if x.negative then text "-" else []
  if x.isNaN then sign ++ text "nan"
  else if x.isFinite = false then sign ++ text "inf"
  else if x.magnitude = 0 then sign ++ text "0"
  else
    let (number, exponent) := leadingDigits x.scaled.natAbs
    let digits := decimal number
    if exponent < -4 ∨ 6 ≤ exponent then
      let size := decimal exponent.natAbs
      sign ++ digits.take 1 ++ fractionText (digits.drop 1) ++
        text (if exponent < 0 then "e-" else "e+") ++
        (if size.length < 2 then text "0" ++ size else size)
    else if exponent < 0 then
      sign ++ text "0" ++ fractionText (List.replicate (exponent.natAbs - 1) 0x30 ++ digits)
    else
      sign ++ digits.take (exponent.toNat + 1) ++ fractionText (digits.drop (exponent.toNat + 1))

/-- An undecided requirement and why it is undecided (source `indeterminate`). -/
def indeterminate (requirement : Requirement) (detail : String) : RequirementEvaluation where
  requirement
  state := .indeterminate
  consensus := .unknown
  hasObserved := false
  observed := .none
  detail := text detail

/-- Two sets of one shape have a common member (source `sets_intersect`). -/
def setsIntersect : CapabilityValue → CapabilityValue → Option Bool
  | .enumSet a, .enumSet b => some (a.values.any fun value => value ∈ b.values)
  | .textSet a, .textSet b => some (a.values.any fun value => value ∈ b.values)
  | _, _ => none

/-- A set has every member of another set of its shape (source `set_contains`). -/
def setContains : CapabilityValue → CapabilityValue → Option Bool
  | .enumSet a, .enumSet b => some (b.values.all fun value => value ∈ a.values)
  | .textSet a, .textSet b => some (b.values.all fun value => value ∈ a.values)
  | _, _ => none

/-- A decided requirement (source `apply_operator`, the assignments of `state` and `detail`). -/
def RequirementEvaluation.decided (evaluation : RequirementEvaluation) (satisfied : Bool)
    (yes no : String) : RequirementEvaluation :=
  { evaluation with
    state := if satisfied then .satisfied else .violated
    detail := text (if satisfied then yes else no) }

/-- Decide by a comparison of sets, or leave undecided what cannot be compared
(source `apply_operator`, the set operators). -/
def RequirementEvaluation.bySets (evaluation : RequirementEvaluation) (satisfied : Option Bool)
    (yes no undecided : String) : RequirementEvaluation :=
  match satisfied with
  | some satisfied => evaluation.decided satisfied yes no
  | none => indeterminate evaluation.requirement undecided

/-- Decide by a comparison of numbers (source `apply_operator`, the last operators). -/
def RequirementEvaluation.byNumbers (evaluation : RequirementEvaluation)
    (observed : CapabilityValue) (compared : Binary64 → Binary64 → Bool) (op : String) :
    RequirementEvaluation :=
  match observed.numberAsDouble, evaluation.requirement.operand.numberAsDouble with
  | some left, some right =>
    { evaluation with
      state := if compared left right then .satisfied else .violated
      detail := text "attribute " ++ formatNumber left ++
        text (if compared left right then " satisfies " else " violates ") ++ text op ++
        formatNumber right }
  | _, _ => indeterminate evaluation.requirement
      "comparison operators require numeric attribute and operand"

/-- Apply the operator of a requirement to the observed value (source `apply_operator`). -/
def applyOperator (requirement : Requirement) (observed : CapabilityValue)
    (evaluation : RequirementEvaluation) : RequirementEvaluation :=
  let operand := requirement.operand
  match requirement.op with
  | .equals => evaluation.decided (observed.equal operand)
      "attribute equals the required value" "attribute differs from the required value"
  | .notEquals => evaluation.decided (!observed.equal operand)
      "attribute equals the required value" "attribute differs from the required value"
  | .in_ => evaluation.bySets (setContains operand observed)
      "attribute is a member of the required set" "attribute is not a member of the required set"
      "operator 'in' requires a set operand and a scalar attribute"
  | .notIn => evaluation.bySets ((setContains operand observed).map not)
      "attribute is a member of the required set" "attribute is not a member of the required set"
      "operator 'in' requires a set operand and a scalar attribute"
  | .supersetOf => evaluation.bySets (setContains observed operand)
      "attribute covers every required member" "attribute is missing a required member"
      "operator 'superset_of' requires set-valued attribute and operand"
  | .subsetOf => evaluation.bySets (setContains operand observed)
      "attribute is contained in the allowed set"
      "attribute contains a member outside the allowed set"
      "operator 'subset_of' requires set-valued attribute and operand"
  | .overlaps => evaluation.bySets (setsIntersect observed operand)
      "attribute sets satisfy the relation" "attribute sets do not satisfy the relation"
      "operator requires set-valued attribute and operand"
  | .disjointFrom => evaluation.bySets ((setsIntersect observed operand).map not)
      "attribute sets satisfy the relation" "attribute sets do not satisfy the relation"
      "operator requires set-valued attribute and operand"
  | .atMost => evaluation.byNumbers observed (fun left right => left.le right) "at_most "
  | .atLeast => evaluation.byNumbers observed (fun left right => right.le left) "at_least "
  | .unknown => indeterminate requirement "requirement operator is not modelled"

/-- Evaluate a requirement against the resolved attribute (source `evaluate_requirement`). -/
def evaluateRequirement (requirement : Requirement) (resolver : AttributeResolver) :
    RequirementEvaluation :=
  match resolver with
  | none => indeterminate requirement "no attribute resolver is available"
  | some resolve =>
    match resolve requirement.subject requirement.key requirement.subkey with
    | none => indeterminate requirement "no source has declared this attribute"
    | some answer =>
      let evaluation : RequirementEvaluation := {
        requirement, state := .indeterminate, consensus := answer.outcome
        hasObserved := false, observed := .none, detail := [] }
      if answer.outcome = .conflicting then
        { evaluation with detail := text "live sources disagree about this attribute" }
      else if answer.established = false then
        { evaluation with
          detail := text "this attribute is not established by live evidence" }
      else applyOperator requirement answer.value
        { evaluation with hasObserved := true, observed := answer.value }

/-- The attribute is established with this value (source `CapabilityConsensus::established`). -/
def AttributeResolver.Establishes (resolver : AttributeResolver) (subject : RequirementSubject)
    (key : CapabilityKey) (subkey : Bytes) (value : CapabilityValue) : Prop :=
  ∃ resolve answer, resolver = some resolve ∧ resolve subject key subkey = some answer ∧
    answer.established = true ∧ answer.value = value

/-- The state of a requirement on an established attribute is the answer of the operator
(source `evaluate_requirement`). -/
lemma evaluateRequirement_state {requirement : Requirement} {resolver : AttributeResolver}
    {value : CapabilityValue}
    (known : resolver.Establishes requirement.subject requirement.key requirement.subkey value) :
    ∃ evaluation, evaluation.requirement = requirement ∧
      evaluateRequirement requirement resolver = applyOperator requirement value evaluation := by
  obtain ⟨resolve, answer, rfl, found, established, rfl⟩ := known
  have agreed : answer.outcome ≠ .conflicting := by
    intro conflict
    simp [CapabilityConsensus.established, conflict] at established
  simp only [evaluateRequirement, found, agreed, established, if_false, Bool.true_eq_false]
  exact ⟨_, by rfl, rfl⟩

/-- A decided requirement is about an established attribute (source `evaluate_requirement`). -/
lemma establishes_of_decided {requirement : Requirement} {resolver : AttributeResolver}
    (decided : (evaluateRequirement requirement resolver).state ≠ .indeterminate) :
    ∃ value,
      resolver.Establishes requirement.subject requirement.key requirement.subkey value := by
  unfold evaluateRequirement at decided
  split at decided
  · exact absurd rfl decided
  · rename_i resolve
    split at decided
    · exact absurd rfl decided
    · rename_i answer found
      split at decided
      · exact absurd rfl decided
      · split at decided
        · exact absurd rfl decided
        · rename_i established
          exact ⟨_, resolve, answer, rfl, found, by simpa using established, rfl⟩

end TransceiverRegistry

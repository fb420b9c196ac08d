import TransceiverRegistry.Model.Capability

/-!
# Compatibility rules

Port of the rule records of `compatibility.hpp` and of `validate_rule` of `compatibility.cpp`.
-/

namespace TransceiverRegistry

open Lib

/-- One condition of a rule (source `Requirement`). -/
structure Requirement where
  subject : RequirementSubject
  key : CapabilityKey
  subkey : Bytes
  op : RequirementOp
  operand : CapabilityValue
  note : Bytes

/-- A published rule (source `CompatRule`). -/
structure CompatRule where
  name : Bytes
  requirements : List Requirement
  verdict : CompatVerdict
  priority : Int32
  rationale : Bytes
  provenance : Provenance
  enabled : Bool

/-- A stored rule (source `CompatRuleRecord`). -/
structure CompatRuleRecord where
  id : RuleId
  rule : CompatRule
  source : SourceId
  sourceEpoch : SourceEpoch
  generation : Generation
  sequence : Sequence
  live : Bool

/-- A published rule and its generation (source `CompatRuleHandle`). -/
structure CompatRuleHandle where
  id : RuleId
  generation : Generation

/-- The shape is a set (source `is_set_kind`). -/
def isSetKind (kind : CapabilityValueKind) : Bool :=
  kind = .enumSet ∨ kind = .textSet ∨ kind = .spectrum

/-- Accept an operand of the shape the operator needs (source `validate_rule`, the switch). -/
def validateOperand (requirement : Requirement) : Result Unit :=
  let expected := capabilityValueKind requirement.key
  let operandKind := requirement.operand.kind
  match requirement.op with
  | .equals | .notEquals => requirement.operand.validateFor requirement.key
  | .in_ | .notIn | .supersetOf | .subsetOf | .overlaps | .disjointFrom => do
    refuseIf (isSetKind operandKind = false)
      (makeError .invalidArgument "set operators require a set-valued operand")
    refuseIf (expected ≠ operandKind ∧ ¬ (expected = .enum ∧ operandKind = .enumSet))
      (makeError .invalidArgument "operand shape does not match the capability key")
  | .atMost | .atLeast =>
    refuseIf (operandKind ≠ .count ∧ operandKind ≠ .real)
      (makeError .invalidArgument "comparison operators require a numeric operand")
  | .unknown => .ok ()

/-- Accept one condition of a rule (source `validate_rule`, the loop). -/
def validateRequirement (requirement : Requirement) : Result Unit := do
  refuseIf (requirement.key = .unknown ∨ requirement.key = .unsupported)
    (makeError .invalidArgument "requirement must name a modelled capability key")
  refuseIf (requirement.op = .unknown)
    (makeError .invalidArgument "requirement must name a modelled operator")
  validateOperand requirement
  refuseIf (128 < requirement.subkey.length)
    (makeError .invalidArgument "requirement subkey is too long")

/-- Accept a rule that can be evaluated (source `validate_rule`). -/
def validateRule (rule : CompatRule) : Result Unit := do
  refuseIf (rule.name = [])
    (makeError .invalidArgument "compatibility rule must have a name")
  refuseIf (128 < rule.name.length)
    (makeError .invalidArgument "compatibility rule name is too long")
  refuseIf (rule.requirements = [])
    (makeError .invalidArgument "compatibility rule must declare at least one requirement")
  refuseIf (rule.verdict = .unknown)
    (makeError .invalidArgument "compatibility rule must declare a verdict")
  forEach validateRequirement rule.requirements

end TransceiverRegistry

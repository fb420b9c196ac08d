import TransceiverRegistry.Codec.Compatibility
import TransceiverRegistry.Codec.Views

/-!
# Codecs of decisions

Port of the codecs of `codec.cpp` for evaluated requirements, matched rules and decisions. The
rendering of a decision as text is sent along with it, whatever it says.
-/

namespace TransceiverRegistry

open Lib

/-- The codes of `RequirementState` fit in a byte. -/
lemma RequirementState.fits_byte : 2 < 256 := by decide

instance : WireEnum RequirementState where
  code := RequirementState.ctorIdx
  last := 2
  ofCode := RequirementState.ofNat
  last_lt := RequirementState.fits_byte
  code_le a := by cases a <;> decide
  ofCode_code := RequirementState.ofNat_ctorIdx
  code_ofCode := by decide

/-- A decision and its rendering as text (source `CompatDecision`, with `explanation`). -/
structure ExplainedDecision extends CompatDecision where
  explanation : Bytes

variable [StdSort]

namespace RequirementEvaluation

/-- The members of an encoded evaluation (source `Codec<RequirementEvaluation>::encode`). -/
def fields (value : RequirementEvaluation) : List (String × Value) := [
  ("consensus", integerOf (code value.consensus)),
  ("detail", .text value.detail),
  ("has_observed", .boolean value.hasObserved),
  ("observed", encode value.observed),
  ("requirement", encode value.requirement),
  ("state", integerOf (code value.state))]

instance : Codec RequirementEvaluation where
  encode value := codecObject value.fields
  decode encoded := do
    let _ ← asObject encoded "requirement evaluation"
    let requirement ← getRecord encoded "requirement"
    let state ← getEnum encoded "state" "requirement state"
    let consensus ← getEnum encoded "consensus" "consensus outcome"
    let hasObserved ← getBoolean encoded "has_observed"
    let observed ← getRecord encoded "observed"
    let detail ← getText encoded "detail"
    .ok { requirement, state, consensus, hasObserved, observed, detail }

/-- The values of an evaluation are sent as they are. -/
structure Readable (evaluation : RequirementEvaluation) : Prop where
  operand : evaluation.requirement.operand.Readable
  observed : evaluation.observed.Readable

lemma fields_ok (value : RequirementEvaluation) : keysOk (value.fields.map Prod.fst) = true := by
  simp only [fields, List.map]
  decide +kernel

/-- An evaluation is read back when its values are
(source `Codec<RequirementEvaluation>::decode`). -/
lemma decode_encode {value read : RequirementEvaluation} :
    decode (encode value) = .ok read ↔ value.Readable ∧ read = value := by
  have holds {k x} (h : value.fields.lookup k = some x) : Holds (encode value) k x :=
    holds_codecObject value.fields_ok h
  have requirement (a b : Requirement) :
      decode (encode a) = .ok b ↔ a.operand.Readable ∧ b = a := Requirement.decode_encode
  have observed (a b : CapabilityValue) : decode (encode a) = .ok b ↔ a.Readable ∧ b = a :=
    CapabilityValue.decode_encode
  simp only [decode, bind_eq_ok, asObject_eq (holds (k := "state") rfl).object,
    getRecord_iff requirement (holds (k := "requirement") rfl),
    getEnum_eq (holds (k := "state") rfl), getEnum_eq (holds (k := "consensus") rfl),
    getBoolean_eq (holds (k := "has_observed") rfl),
    getRecord_iff observed (holds (k := "observed") rfl), getText_eq (holds (k := "detail") rfl),
    Except.ok.injEq, exists_eq_left', and_assoc, exists_and_left, exists_eq_left, @eq_comm _ read]
  exact ⟨fun ⟨h1, h2, e⟩ => ⟨⟨h1, h2⟩, e⟩, fun ⟨⟨h1, h2⟩, e⟩ => ⟨h1, h2, e⟩⟩

end RequirementEvaluation

namespace MatchedRule

/-- The members of an encoded matched rule (source `Codec<MatchedRule>::encode`). -/
def fields (value : MatchedRule) : List (String × Value) := [
  ("generation", integerOf value.generation.toNat),
  ("id", integerOf value.id.toNat),
  ("name", .text value.name),
  ("priority", .integer value.priority.toInt64),
  ("rationale", .text value.rationale),
  ("requirements", encodeRecordArray value.requirements),
  ("verdict", integerOf (code value.verdict))]

instance : Codec MatchedRule where
  encode value := codecObject value.fields
  decode encoded := do
    let _ ← asObject encoded "matched rule"
    let id ← getU32 encoded "id"
    let name ← getText encoded "name"
    let verdict ← getEnum encoded "verdict" "compat verdict"
    let priority ← getI32 encoded "priority"
    let generation ← getUnsigned encoded "generation"
    let rationale ← getText encoded "rationale"
    let requirements ← getRecordArray encoded "requirements"
    .ok { id, name, verdict, priority, generation, rationale, requirements }

/-- The counter and the evaluations of a matched rule are sent as they are. -/
structure Readable (rule : MatchedRule) : Prop where
  generation : rule.generation.toNat < 2 ^ 63
  requirements : ∀ evaluation ∈ rule.requirements, evaluation.Readable

lemma fields_ok (value : MatchedRule) : keysOk (value.fields.map Prod.fst) = true := by
  simp only [fields, List.map]
  decide +kernel

/-- A matched rule is read back when its parts are (source `Codec<MatchedRule>::decode`). -/
lemma decode_encode {value read : MatchedRule} :
    decode (encode value) = .ok read ↔ value.Readable ∧ read = value := by
  have holds {k x} (h : value.fields.lookup k = some x) : Holds (encode value) k x :=
    holds_codecObject value.fields_ok h
  have each (a b : RequirementEvaluation) : decode (encode a) = .ok b ↔ a.Readable ∧ b = a :=
    RequirementEvaluation.decode_encode
  simp only [decode, bind_eq_ok, asObject_eq (holds (k := "id") rfl).object,
    getU32_eq (holds (k := "id") rfl), getText_eq (holds (k := "name") rfl),
    getEnum_eq (holds (k := "verdict") rfl), getI32_eq (holds (k := "priority") rfl),
    getUnsigned_counter (holds (k := "generation") rfl), getText_eq (holds (k := "rationale") rfl),
    getRecordArray_iff each (holds (k := "requirements") rfl), Except.ok.injEq, exists_eq_left',
    and_assoc, exists_and_left, exists_eq_left, @eq_comm _ read]
  exact ⟨fun ⟨h1, h2, e⟩ => ⟨⟨h1, h2⟩, e⟩, fun ⟨⟨h1, h2⟩, e⟩ => ⟨h1, h2, e⟩⟩

end MatchedRule

namespace ExplainedDecision

/-- The members of an encoded decision (source `Codec<CompatDecision>::encode`). -/
def fields (value : ExplainedDecision) : List (String × Value) := [
  ("clock_domain", .unsigned value.clockDomain),
  ("closure", integerOf (code value.closure)),
  ("considered_rules", integerOf value.consideredRules.toNat),
  ("decision_digest", .text value.decisionDigest.toHex),
  ("evaluated_at_wall_ns", .integer value.evaluatedAtWallNs),
  ("explanation", .text value.explanation),
  ("generation", integerOf value.generation.toNat),
  ("incarnation", integerOf value.incarnation.toNat),
  ("indeterminate_rules", integerOf value.indeterminateRules.toNat),
  ("inputs_digest", .text value.inputsDigest.toHex),
  ("matched_rules", encodeRecordArray value.matchedRules),
  ("outcome", integerOf (code value.outcome)),
  ("port", .text value.port.str),
  ("uid", integerOf value.uid.toNat),
  ("unmet_requirements", encodeRecordArray value.unmetRequirements),
  ("violated_requirements", encodeRecordArray value.violatedRequirements)]

instance : Codec ExplainedDecision where
  encode value := codecObject value.fields
  decode encoded := do
    let _ ← asObject encoded "compat decision"
    let outcome ← getEnum encoded "outcome" "compat outcome"
    let closure ← getEnum encoded "closure" "knowledge closure"
    let port ← getKey encoded "port" "compat decision port"
    let uid ← getUnsigned encoded "uid"
    let incarnation ← getU32 encoded "incarnation"
    let generation ← getUnsigned encoded "generation"
    let consideredRules ← getU32 encoded "considered_rules"
    let indeterminateRules ← getU32 encoded "indeterminate_rules"
    let matchedRules ← getRecordArray encoded "matched_rules"
    let unmetRequirements ← getRecordArray encoded "unmet_requirements"
    let violatedRequirements ← getRecordArray encoded "violated_requirements"
    let inputsDigest ← getDigestField encoded "inputs_digest"
    let decisionDigest ← getDigestField encoded "decision_digest"
    let evaluatedAtWallNs ← getInteger encoded "evaluated_at_wall_ns"
    let clockDomain ← getUnsignedField encoded "clock_domain"
    let explanation ← getText encoded "explanation"
    .ok { outcome, closure, port, uid, incarnation, generation, consideredRules,
          indeterminateRules, matchedRules, unmetRequirements, violatedRequirements, inputsDigest,
          decisionDigest, evaluatedAtWallNs, clockDomain, explanation }

/-- The counters and the evaluations of a decision are sent as they are. -/
structure Readable (decision : ExplainedDecision) : Prop where
  uid : decision.uid.toNat < 2 ^ 63
  generation : decision.generation.toNat < 2 ^ 63
  matchedRules : ∀ rule ∈ decision.matchedRules, rule.Readable
  unmetRequirements : ∀ evaluation ∈ decision.unmetRequirements, evaluation.Readable
  violatedRequirements : ∀ evaluation ∈ decision.violatedRequirements, evaluation.Readable

lemma fields_ok (value : ExplainedDecision) : keysOk (value.fields.map Prod.fst) = true := by
  simp only [fields, List.map]
  decide +kernel

/-- A decision is read back when its parts are (source `Codec<CompatDecision>::decode`). -/
lemma decode_encode {value read : ExplainedDecision} :
    decode (encode value) = .ok read ↔ value.Readable ∧ read = value := by
  have holds {k x} (h : value.fields.lookup k = some x) : Holds (encode value) k x :=
    holds_codecObject value.fields_ok h
  have rule (a b : MatchedRule) : decode (encode a) = .ok b ↔ a.Readable ∧ b = a :=
    MatchedRule.decode_encode
  have each (a b : RequirementEvaluation) : decode (encode a) = .ok b ↔ a.Readable ∧ b = a :=
    RequirementEvaluation.decode_encode
  simp only [decode, bind_eq_ok, asObject_eq (holds (k := "outcome") rfl).object,
    getEnum_eq (holds (k := "outcome") rfl), getEnum_eq (holds (k := "closure") rfl),
    getKey_eq (holds (k := "port") rfl), getUnsigned_counter (holds (k := "uid") rfl),
    getU32_eq (holds (k := "incarnation") rfl),
    getUnsigned_counter (holds (k := "generation") rfl),
    getU32_eq (holds (k := "considered_rules") rfl),
    getU32_eq (holds (k := "indeterminate_rules") rfl),
    getRecordArray_iff rule (holds (k := "matched_rules") rfl),
    getRecordArray_iff each (holds (k := "unmet_requirements") rfl),
    getRecordArray_iff each (holds (k := "violated_requirements") rfl),
    getDigestField_eq (holds (k := "inputs_digest") rfl),
    getDigestField_eq (holds (k := "decision_digest") rfl),
    getInteger_eq (holds (k := "evaluated_at_wall_ns") rfl),
    getUnsignedField_eq (holds (k := "clock_domain") rfl),
    getText_eq (holds (k := "explanation") rfl), Except.ok.injEq, exists_eq_left', and_assoc,
    exists_and_left, exists_eq_left, @eq_comm _ read]
  exact ⟨fun ⟨h1, h2, h3, h4, h5, e⟩ => ⟨⟨h1, h2, h3, h4, h5⟩, e⟩,
    fun ⟨⟨h1, h2, h3, h4, h5⟩, e⟩ => ⟨h1, h2, h3, h4, h5, e⟩⟩

end ExplainedDecision

end TransceiverRegistry

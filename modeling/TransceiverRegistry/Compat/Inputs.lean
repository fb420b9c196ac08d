import TransceiverRegistry.Canonical.Delimited
import TransceiverRegistry.Compat.Order

/-!
# The knowledge a decision used

The inputs digest of a decision names a document: what is known about each attribute that a rule
refers to. The document determines every answer of the rules. But a text that is not UTF-8 has no
canonical form, publishing accepts it, and then the digest is the zero digest whatever else is known.
-/

namespace TransceiverRegistry

open Lib CanonicalWriter

/-- The document of a wavelength (source `write_spectrum`, the loop). -/
def SpectrumDescriptor.document (d : SpectrumDescriptor) : Value := .members [
  (text "center_nm", .real d.centerNm), (text "channel", .text d.channel),
  (text "frequency_thz", .real d.frequencyThz), (text "grid", .integer (Int64.ofNat (code d.grid))),
  (text "lane", .integer (Int64.ofNat d.lane.toNat))]

/-- The document of a capability value (source `write_canonical`). -/
def CapabilityValue.document : CapabilityValue → Value
  | .none => .members [(TransceiverRegistry.text "k", .text (TransceiverRegistry.text "none"))]
  | .boolean value => .members [(TransceiverRegistry.text "b", .boolean value),
      (TransceiverRegistry.text "k", .text (TransceiverRegistry.text "boolean"))]
  | .count value => .members [(TransceiverRegistry.text "i", .integer value),
      (TransceiverRegistry.text "k", .text (TransceiverRegistry.text "count"))]
  | .enumeration value => .members [(TransceiverRegistry.text "i", .integer value),
      (TransceiverRegistry.text "k", .text (TransceiverRegistry.text "enum"))]
  | .real value => .members [
      (TransceiverRegistry.text "k", .text (TransceiverRegistry.text "real")),
      (TransceiverRegistry.text "r", .real value)]
  | .text value => .members [
      (TransceiverRegistry.text "k", .text (TransceiverRegistry.text "text")),
      (TransceiverRegistry.text "t", .text value)]
  | .enumSet set => .members [
      (TransceiverRegistry.text "k", .text (TransceiverRegistry.text "enum_set")),
      (TransceiverRegistry.text "s", .array (set.values.map .integer))]
  | .textSet set => .members [
      (TransceiverRegistry.text "k", .text (TransceiverRegistry.text "text_set")),
      (TransceiverRegistry.text "s", .array (set.values.map .text))]
  | .spectrum set => .members [
      (TransceiverRegistry.text "k", .text (TransceiverRegistry.text "spectrum")),
      (TransceiverRegistry.text "s", .array (set.values.map SpectrumDescriptor.document))]

/-- Writing entries one after the other writes their documents. -/
lemma foldl_write {α : Type} {write : CanonicalWriter → α → CanonicalWriter} {document : α → Value}
    (same : ∀ w a, write w a = w.writeValue (document a)) (w : CanonicalWriter) (l : List α) :
    l.foldl write w = w.writeElements (l.map document) := by
  induction l generalizing w with
  | nil => rfl
  | cons a l ih => rw [List.foldl_cons, List.map_cons, writeElements, ih, same]

/-- A number is written as its document (source `CanonicalWriter::integer`). -/
lemma integer_eq (w : CanonicalWriter) (value : Int64) :
    w.integer value = w.writeValue (.integer value) := rfl

/-- A text is written as its document (source `CanonicalWriter::text`). -/
lemma text_value_eq (w : CanonicalWriter) (value : Bytes) :
    w.text value = w.writeValue (.text value) := rfl

/-- A wavelength is written as its document (source `write_spectrum`, the loop). -/
lemma writeSpectrumDescriptor_eq (w : CanonicalWriter) (d : SpectrumDescriptor) :
    writeSpectrumDescriptor w d = w.writeValue d.document := rfl

/-- A capability value is written as its document (source `write_canonical`). -/
lemma writeCanonical_eq (w : CanonicalWriter) (value : CapabilityValue) :
    value.writeCanonical w = w.writeValue value.document := by
  cases value with
  | enumSet set =>
    rw [CapabilityValue.writeCanonical, foldl_write integer_eq,
      CapabilityValue.document]
    simp only [writeValue, writeMembers, List.length_map]
    rfl
  | textSet set =>
    rw [CapabilityValue.writeCanonical, foldl_write text_value_eq,
      CapabilityValue.document]
    simp only [writeValue, writeMembers, List.length_map]
    rfl
  | spectrum set =>
    rw [CapabilityValue.writeCanonical, foldl_write writeSpectrumDescriptor_eq,
      CapabilityValue.document]
    simp only [writeValue, writeMembers, List.length_map]
    rfl
  | _ => rfl

/-- What a resolver knows about an attribute (source `write_attribute_reference`). -/
def AttributeResolver.answer (resolver : AttributeResolver) (reference : AttributeReference) :
    Option CapabilityConsensus :=
  resolver.bind fun resolve => resolve reference.1 reference.2.1 reference.2.2

/-- The value that is written for an attribute (source `write_attribute_reference`). -/
def AttributeResolver.known (resolver : AttributeResolver) (reference : AttributeReference) :
    Option CapabilityValue :=
  ((resolver.answer reference).filter (·.hasValue)).map (·.value)

/-- The outcome that is written for an attribute (source `write_attribute_reference`). -/
def AttributeResolver.outcome (resolver : AttributeResolver) (reference : AttributeReference) :
    ConsensusOutcome :=
  ((resolver.answer reference).map (·.outcome)).getD .unknown

/-- The document of what is known about an attribute (source `write_attribute_reference`). -/
def referenceDocument (resolver : AttributeResolver) (reference : AttributeReference) : Value :=
  .members [(text "key", .integer (Int64.ofNat (code reference.2.1))),
    (text "outcome", .integer (Int64.ofNat (code (resolver.outcome reference)))),
    (text "subject", .integer (Int64.ofNat (code reference.1))),
    (text "subkey", .text reference.2.2),
    (text "has_value", .boolean (resolver.known reference).isSome),
    (text "value", ((resolver.known reference).map (·.document)).getD .null)]

/-- What is known about an attribute is written as its document (source
`write_attribute_reference`). -/
lemma writeAttributeReference_eq (resolver : AttributeResolver) (w : CanonicalWriter)
    (reference : AttributeReference) : writeAttributeReference resolver w reference =
      w.writeValue (referenceDocument resolver reference) := by
  obtain ⟨subject, key, subkey⟩ := reference
  have known : resolver.known (subject, key, subkey) = (((resolver.bind fun resolve =>
      resolve subject key subkey).filter (·.hasValue)).map (·.value)) := rfl
  have outcome : resolver.outcome (subject, key, subkey) = ((resolver.bind fun resolve =>
      resolve subject key subkey).map (·.outcome)).getD .unknown := rfl
  unfold writeAttributeReference referenceDocument
  simp only [← known, ← outcome, writeValue, writeMembers, List.length_cons, List.length_nil]
  cases resolver.known (subject, key, subkey) with
  | none => rfl
  | some value => exact writeCanonical_eq _ value

/-- The document of the knowledge a decision depends on (source `digest_inputs`). -/
def inputsDocument (query : CompatQuery) (rules : List CompatRuleRecord)
    (resolver : AttributeResolver) : Value :=
  .members [(text "incarnation", .integer (Int64.ofNat query.incarnation.toNat)),
    (text "port", .text query.port.str),
    (text "attributes", .array ((attributeReferences rules).map (referenceDocument resolver))),
    (text "uid", .integer query.uid.toInt64)]

/-- The inputs digest is the digest of the document (source `digest_inputs`). -/
lemma digestInputs_eq (query : CompatQuery) (rules : List CompatRuleRecord)
    (resolver : AttributeResolver) : digestInputs query rules resolver =
      (new.writeValue (inputsDocument query rules resolver)).digest := by
  unfold digestInputs
  simp only [foldl_write (writeAttributeReference_eq resolver)]
  simp only [inputsDocument, writeValue, writeMembers, List.length_map]
  rfl

/-- Small numbers are one-to-one. -/
lemma ofNat_inj {a b : Nat} (small : a < 2 ^ 63) (small' : b < 2 ^ 63)
    (same : Int64.ofNat a = Int64.ofNat b) : a = b := by
  have numbers := congrArg Int64.toInt same
  rw [Int64.toInt_ofNat_of_lt small, Int64.toInt_ofNat_of_lt small'] at numbers
  exact Int.ofNat.inj numbers

/-- The number of an enumerator tells which it is. -/
lemma ofNat_code_inj {α : Type} [WireEnum α] {a b : α}
    (same : Int64.ofNat (code a) = Int64.ofNat (code b)) : a = b := by
  have small (a : α) : code a < 2 ^ 63 := by
    have := WireEnum.code_le a
    have := WireEnum.last_lt (α := α)
    omega
  exact code_injective (ofNat_inj (small a) (small b) same)

/-- A wavelength is determined by its document (source `write_spectrum`). -/
lemma SpectrumDescriptor.document_inj {d d' : SpectrumDescriptor}
    (same : d.document = d'.document) : d = d' := by
  obtain ⟨lane, center, frequency, grid, channel⟩ := d
  obtain ⟨lane', center', frequency', grid', channel'⟩ := d'
  simp only [document, Value.members.injEq, List.cons.injEq, Prod.mk.injEq, Value.real.injEq,
    Value.text.injEq, Value.integer.injEq, true_and, and_true] at same
  obtain ⟨rfl, rfl, rfl, grids, lanes⟩ := same
  have lane_lt := lane.toNat_lt
  have lane_lt' := lane'.toNat_lt
  obtain rfl := UInt16.toNat_inj.1 (ofNat_inj (by omega) (by omega) lanes)
  rw [ofNat_code_inj grids]

/-- The shape of a capability value is determined by its document (source `write_canonical`). -/
lemma CapabilityValue.kind_eq_of_document {a b : CapabilityValue} (same : a.document = b.document) :
    a.kind = b.kind := by
  revert same
  cases a <;> cases b <;> simp only [document, kind, Value.members.injEq, List.cons.injEq,
    Prod.mk.injEq, Value.text.injEq, reduceCtorEq, imp_self, imp_true_iff, and_true, and_false,
    false_and, imp_false]
  -- left are the shapes whose members have the same names
  all_goals first
    | exact fun shapes => absurd shapes.1.2 (by decide)
    | exact fun shapes => absurd shapes.2.2 (by decide)

/-- A capability value is determined by its document (source `write_canonical`). -/
lemma CapabilityValue.document_inj {a b : CapabilityValue} (same : a.document = b.document) :
    a = b := by
  have kinds := kind_eq_of_document same
  cases a <;> cases b <;> cases kinds
  case none.none => rfl
  all_goals simp only [document, Value.members.injEq, List.cons.injEq, Prod.mk.injEq,
    Value.array.injEq, Value.boolean.injEq, Value.integer.injEq, Value.real.injEq,
    Value.text.injEq, true_and, and_true] at same
  case enumSet.enumSet set set' =>
    have values := List.map_injective_iff.2 (fun _ _ => Value.integer.inj) same
    cases set
    cases set'
    cases values
    rfl
  case textSet.textSet set set' =>
    have values := List.map_injective_iff.2 (fun _ _ => Value.text.inj) same
    cases set
    cases set'
    cases values
    rfl
  case spectrum.spectrum set set' =>
    have values := List.map_injective_iff.2 (fun _ _ => SpectrumDescriptor.document_inj) same
    cases set
    cases set'
    cases values
    rfl
  all_goals rw [same]

section Knowledge

variable {resolver resolver' : AttributeResolver} {reference : AttributeReference}
  {query : CompatQuery} {rules rules' : List CompatRuleRecord}

/-- Every value that is known was accepted for its attribute (source `Registry::publish_capability`,
`Registry::publish_port_capability`). -/
def AttributeResolver.Accepted (resolver : AttributeResolver) : Prop :=
  ∀ reference value, resolver.known reference = some value →
    value.validateFor reference.2.1 = .ok ()

/-- The evidence establishes this value of an attribute (source
`CapabilityConsensus::established`). -/
abbrev AttributeResolver.EstablishesAt (resolver : AttributeResolver)
    (reference : AttributeReference) (value : CapabilityValue) : Prop :=
  resolver.Establishes reference.1 reference.2.1 reference.2.2 value

/-- Established is a known value with an outcome of agreement (source
`CapabilityConsensus::established`). -/
lemma establishesAt_iff {value : CapabilityValue} : resolver.EstablishesAt reference value ↔
    resolver.known reference = some value ∧
      (resolver.outcome reference = .agreed ∨ resolver.outcome reference = .singleSource) := by
  have found : resolver.answer reference =
      resolver.bind fun resolve => resolve reference.1 reference.2.1 reference.2.2 := rfl
  unfold AttributeResolver.EstablishesAt AttributeResolver.Establishes AttributeResolver.known
    AttributeResolver.outcome
  rw [found]
  cases resolver with
  | none => simp
  | some resolve =>
    cases answer : resolve reference.1 reference.2.1 reference.2.2 with
    | none => simp [answer]
    | some found =>
      cases has : found.hasValue <;>
        simp [answer, CapabilityConsensus.established, Option.filter, has, and_comm]

/-- Two states know the same about an attribute as far as a rule can tell: both establish it, with
equal values, or neither does (source `evaluate_requirement`, `capability_values_equal`). -/
structure AttributeResolver.AgreesOn (resolver resolver' : AttributeResolver)
    (reference : AttributeReference) : Prop where
  forth : ∀ value, resolver.EstablishesAt reference value →
    ∃ value', resolver'.EstablishesAt reference value' ∧ value.equal value' = true
  back : ∀ value', resolver'.EstablishesAt reference value' →
    ∃ value, resolver.EstablishesAt reference value ∧ value.equal value' = true

/-- Accepted values are equal to themselves (source `CapabilityValue::validate_for`,
`capability_values_equal`). -/
lemma equal_self_of_validateFor {value : CapabilityValue} {key : CapabilityKey}
    (valid : value.validateFor key = .ok ()) : value.equal value = true := by
  simp only [CapabilityValue.validateFor, refuseIf_bind_eq_ok] at valid
  obtain ⟨_, _, shape⟩ := valid
  cases value with
  | real x =>
    rw [refuseIf_eq_ok, Bool.not_eq_false] at shape
    exact Binary64.eq_self (Binary64.not_isNaN_of_isFinite shape)
  | spectrum s =>
    simp only [forEach_eq_ok, CapabilityValue.validateSpectrumDescriptor, refuseIf_bind_eq_ok,
      not_or, Bool.not_eq_false] at shape
    refine CapabilityValue.equal_spectrum.2 (List.forall₂_same.2 fun d member => ?_)
    obtain ⟨⟨center, frequency⟩, _⟩ := shape d member
    simp [SpectrumDescriptor.eq, Binary64.eq_self (Binary64.not_isNaN_of_isFinite center),
      Binary64.eq_self (Binary64.not_isNaN_of_isFinite frequency)]
  | _ => simp [CapabilityValue.equal]

/-- Equal values are equal to the same values (source `capability_values_equal`). -/
lemma CapabilityValue.equal_congr {a b : CapabilityValue} (same : a.equal b = true)
    (c : CapabilityValue) : a.equal c = b.equal c := by
  rw [Bool.eq_iff_iff]
  exact ⟨fun h => equal_trans (equal_symm same) h, fun h => equal_trans same h⟩

/-- Equal values are contained in the same sets (source `set_contains`). -/
lemma setContains_congr_right {a b : CapabilityValue} (same : a.equal b = true)
    (c : CapabilityValue) : setContains c a = setContains c b := by
  obtain rfl | ⟨x, y, rfl, rfl, _⟩ | ⟨x, y, rfl, rfl, _⟩ := CapabilityValue.equal_cases same
  · rfl
  · cases c <;> rfl
  · cases c <;> rfl

/-- Equal values contain the same sets (source `set_contains`). -/
lemma setContains_congr_left {a b : CapabilityValue} (same : a.equal b = true)
    (c : CapabilityValue) : setContains a c = setContains b c := by
  obtain rfl | ⟨x, y, rfl, rfl, _⟩ | ⟨x, y, rfl, rfl, _⟩ := CapabilityValue.equal_cases same
  · rfl
  · rfl
  · rfl

/-- Equal values meet the same sets (source `sets_intersect`). -/
lemma setsIntersect_congr {a b : CapabilityValue} (same : a.equal b = true)
    (c : CapabilityValue) : setsIntersect a c = setsIntersect b c := by
  obtain rfl | ⟨x, y, rfl, rfl, _⟩ | ⟨x, y, rfl, rfl, _⟩ := CapabilityValue.equal_cases same
  · rfl
  · rfl
  · rfl

/-- Equal values compare alike with a number (source `apply_operator`, the last operators). -/
lemma byNumbers_congr {a b : CapabilityValue} {evaluation evaluation' : RequirementEvaluation}
    {compared : Binary64 → Binary64 → Bool} {op : String} (same : a.equal b = true)
    (about : evaluation.requirement = evaluation'.requirement)
    (alike : ∀ x y z : Binary64, x.eq y = true → compared x z = compared y z) :
    (evaluation.byNumbers a compared op).state = (evaluation'.byNumbers b compared op).state := by
  unfold RequirementEvaluation.byNumbers
  rw [about]
  obtain rfl | ⟨x, y, rfl, rfl, numbers⟩ | ⟨x, y, rfl, rfl, _⟩ := CapabilityValue.equal_cases same
  · split <;> rfl
  · have left : (CapabilityValue.real x).numberAsDouble = some x := rfl
    have left' : (CapabilityValue.real y).numberAsDouble = some y := rfl
    rw [left, left']
    cases evaluation'.requirement.operand.numberAsDouble with
    | none => rfl
    | some z => simp only [alike x y z numbers]
  · rfl

/-- Equal values are the same to every operator (source `apply_operator`). -/
lemma applyOperator_state_congr {requirement : Requirement} {value value' : CapabilityValue}
    {evaluation evaluation' : RequirementEvaluation} (same : value.equal value' = true)
    (about : evaluation.requirement = requirement) (about' : evaluation'.requirement = requirement) :
    (applyOperator requirement value evaluation).state =
      (applyOperator requirement value' evaluation').state := by
  have decided (satisfied : Bool) (yes no : String) : (evaluation.decided satisfied yes no).state =
      (evaluation'.decided satisfied yes no).state := rfl
  have bySets (satisfied : Option Bool) (yes no undecided : String) :
      (evaluation.bySets satisfied yes no undecided).state =
        (evaluation'.bySets satisfied yes no undecided).state := by
    cases satisfied <;> rfl
  unfold applyOperator
  cases requirement.op with
  | equals | notEquals =>
    simp only [CapabilityValue.equal_congr same]
    exact decided _ _ _
  | in_ | notIn | subsetOf =>
    simp only [setContains_congr_right same]
    exact bySets _ _ _ _
  | supersetOf =>
    simp only [setContains_congr_left same]
    exact bySets _ _ _ _
  | overlaps | disjointFrom =>
    simp only [setsIntersect_congr same]
    exact bySets _ _ _ _
  | atMost =>
    exact byNumbers_congr same (about.trans about'.symm) fun _ _ z h => Binary64.le_congr_left h z
  | atLeast =>
    exact byNumbers_congr same (about.trans about'.symm) fun _ _ z h => Binary64.le_congr_right h z
  | unknown => rfl

/-- A requirement on an attribute that two states agree on has one answer (source
`evaluate_requirement`). -/
lemma AttributeResolver.AgreesOn.state_eq {requirement : Requirement}
    (agrees : resolver.AgreesOn resolver'
      (requirement.subject, requirement.key, requirement.subkey)) :
    (evaluateRequirement requirement resolver).state =
      (evaluateRequirement requirement resolver').state := by
  by_cases waits : (evaluateRequirement requirement resolver).state = .indeterminate
  · by_contra differ
    rw [waits] at differ
    obtain ⟨value', known'⟩ := establishes_of_decided (Ne.symm differ)
    obtain ⟨value, known, same⟩ := agrees.back value' known'
    obtain ⟨evaluation, about, answer⟩ := evaluateRequirement_state known
    obtain ⟨evaluation', about', answer'⟩ := evaluateRequirement_state known'
    rw [answer] at waits
    rw [answer', ← applyOperator_state_congr same about about', waits] at differ
    exact differ rfl
  · obtain ⟨value, known⟩ := establishes_of_decided waits
    obtain ⟨value', known', same⟩ := agrees.forth value known
    obtain ⟨evaluation, about, answer⟩ := evaluateRequirement_state known
    obtain ⟨evaluation', about', answer'⟩ := evaluateRequirement_state known'
    rw [answer, answer']
    exact applyOperator_state_congr same about about'

/-- States that agree on the attributes that the rules refer to get one answer (source
`evaluate_compatibility`). -/
lemma answer_of_agreesOn [StdSort]
    (agrees : ∀ reference ∈ attributeReferences rules, resolver.AgreesOn resolver' reference) :
    (scanRules resolver (consideredRules query rules)).answer =
      (scanRules resolver' (consideredRules query rules)).answer := by
  have states : ∀ record ∈ consideredRules query rules, ∀ requirement ∈ record.rule.requirements,
      (evaluateRequirement requirement resolver).state =
        (evaluateRequirement requirement resolver').state := by
    intro record considered requirement member
    have inRules := (mem_orderedRules.1 (List.mem_of_mem_take considered)).1
    exact (agrees _ (mem_attributeReferences.2 ⟨record, inRules, requirement, member, rfl⟩)).state_eq
  have satisfied : ∀ record ∈ consideredRules query rules,
      (record.Satisfied resolver ↔ record.Satisfied resolver') := by
    intro record considered
    refine forall₂_congr fun requirement member => ?_
    rw [states record considered requirement member]
  have waits : ∀ record ∈ consideredRules query rules,
      (record.Waits resolver ↔ record.Waits resolver') := by
    intro record considered
    refine exists_congr fun requirement => and_congr_right fun member => ?_
    rw [states record considered requirement member]
  obtain ⟨denies, unsupported, allows, open_⟩ :=
    scanRules_buckets resolver (consideredRules query rules)
  obtain ⟨denies', unsupported', allows', open'⟩ :=
    scanRules_buckets resolver' (consideredRules query rules)
  apply RuleScan.answer_congr
  · rw [denies, denies']
    exact exists_congr fun record => and_congr_right fun member =>
      and_congr_right fun _ => satisfied record member
  · rw [unsupported, unsupported']
    exact exists_congr fun record => and_congr_right fun member =>
      and_congr_right fun _ => satisfied record member
  · rw [allows, allows']
    exact exists_congr fun record => and_congr_right fun member =>
      and_congr_right fun _ => satisfied record member
  · rw [open_, open']
    exact exists_congr fun record => and_congr_right fun member => waits record member

/-- States with one document agree on the attributes in it (source `digest_inputs`). -/
lemma agreesOn_of_document (accepted : resolver.Accepted)
    (same : referenceDocument resolver reference = referenceDocument resolver' reference) :
    resolver.AgreesOn resolver' reference := by
  simp only [referenceDocument, Value.members.injEq, List.cons.injEq, Prod.mk.injEq,
    Value.integer.injEq, Value.boolean.injEq, true_and, and_true] at same
  obtain ⟨outcomes, has, values⟩ := same
  have outcome : resolver.outcome reference = resolver'.outcome reference := ofNat_code_inj outcomes
  have known : resolver.known reference = resolver'.known reference := by
    cases here : resolver.known reference with
    | none =>
      cases there : resolver'.known reference with
      | none => rfl
      | some value' => simp [here, there] at has
    | some value =>
      cases there : resolver'.known reference with
      | none => simp [here, there] at has
      | some value' =>
        rw [here, there] at values
        exact congrArg some (CapabilityValue.document_inj values)
  have established (value : CapabilityValue) : resolver.EstablishesAt reference value ↔
      resolver'.EstablishesAt reference value := by
    rw [establishesAt_iff, establishesAt_iff, known, outcome]
  have self : ∀ value, resolver.EstablishesAt reference value → value.equal value = true :=
    fun value here => equal_self_of_validateFor (accepted _ _ (establishesAt_iff.1 here).1)
  constructor
  · intro value here
    exact ⟨value, (established value).1 here, self value here⟩
  · intro value there
    have here := (established value).2 there
    exact ⟨value, here, self value here⟩

/-- Every text in the value is UTF-8 (source `is_valid_utf8`). -/
def CapabilityValue.Legible : CapabilityValue → Prop
  | .text value => isValidUtf8 value = true
  | .textSet set => ∀ value ∈ set.values, isValidUtf8 value = true
  | .spectrum set => ∀ d ∈ set.values, isValidUtf8 d.channel = true
  | _ => True

/-- Every text that the document of the knowledge quotes is UTF-8 (source `is_valid_utf8`). -/
def AttributeResolver.Legible (resolver : AttributeResolver) (rules : List CompatRuleRecord) :
    Prop :=
  ∀ reference ∈ attributeReferences rules, isValidUtf8 reference.2.2 = true ∧
    ∀ value, resolver.known reference = some value → value.Legible

/-- The names of the members and of the shapes. -/
def documentNames : List String := ["attributes", "b", "boolean", "center_nm", "channel", "count",
  "enum", "enum_set", "frequency_thz", "grid", "has_value", "i", "incarnation", "k", "key", "lane",
  "none", "outcome", "port", "r", "real", "s", "spectrum", "subject", "subkey", "t", "text",
  "text_set", "uid", "value"]

/-- The names can be written (source `CanonicalWriter::field`). -/
lemma name_written {name : String} (known : name ∈ documentNames) :
    (new.field (text name)).failed = false ∧ (new.text (text name)).failed = false := by
  revert name
  decide

/-- A member with a known name can be written when its value can (source
`CanonicalWriter::write_value`, the object loop). -/
lemma members_written {name : String} (known : name ∈ documentNames) (v : Value)
    (ms : List (Bytes × Value)) : (new.writeMembers ((text name, v) :: ms)).failed =
      ((new.writeValue v).failed || (new.writeMembers ms).failed) := by
  rw [writeMembers_cons]
  simp [andThen, (name_written known).1]

/-- A known name can be written as a text (source `CanonicalWriter::text`). -/
lemma shape_written {name : String} (known : name ∈ documentNames) :
    (new.writeValue (.text (text name))).failed = false := (name_written known).2

/-- A document with members is written when they are (source `CanonicalWriter::write_value`). -/
lemma object_written (ms : List (Bytes × Value)) :
    (new.writeValue (.members ms)).failed = (new.writeMembers ms).failed := by
  rw [writeValue_members]
  rfl

/-- An array is written when its elements are (source `CanonicalWriter::write_value`). -/
lemma array_written {α : Type} (document : α → Value) (l : List α) :
    (new.writeValue (.array (l.map document))).failed = false ↔
      ∀ a ∈ l, (new.writeValue (document a)).failed = false := by
  rw [writeValue_array]
  have elements : (new.writeElements (l.map document)).failed = false ↔
      ∀ a ∈ l, (new.writeValue (document a)).failed = false := by
    induction l with
    | nil => simp [writeElements, new]
    | cons a l ih =>
      rw [List.map_cons, writeElements_cons, List.forall_mem_cons, ← ih]
      exact Bool.or_eq_false_iff
  exact elements

/-- A text can be written when it is UTF-8 (source `CanonicalWriter::text`). -/
lemma text_value_written {t : Bytes} :
    (new.writeValue (.text t)).failed = false ↔ isValidUtf8 t = true := by
  rw [writeValue, CanonicalWriter.text]
  split <;> simp [*, append, fail, new]

/-- A finite number can be written (source `CanonicalWriter::real`). -/
lemma real_value_written {x : Binary64} (finite : x.isFinite = true) :
    (new.writeValue (.real x)).failed = false := by
  rw [writeValue, real, if_neg (by simp [Binary64.not_isNaN_of_isFinite finite])]
  rfl

/-- A wavelength with finite numbers can be written when its channel is UTF-8 (source
`write_spectrum`, the loop). -/
lemma descriptor_written {d : SpectrumDescriptor} (center : d.centerNm.isFinite = true)
    (frequency : d.frequencyThz.isFinite = true) :
    (new.writeValue d.document).failed = false ↔ isValidUtf8 d.channel = true := by
  simp (disch := decide) only [SpectrumDescriptor.document, object_written, members_written,
    Bool.or_eq_false_iff, text_value_written, real_value_written center,
    real_value_written frequency, true_and]
  exact ⟨fun h => h.1, fun h => ⟨h, rfl, rfl, rfl⟩⟩

/-- An accepted value can be written when its texts are UTF-8 (source `write_canonical`). -/
lemma document_written {value : CapabilityValue} {key : CapabilityKey}
    (valid : value.validateFor key = .ok ()) :
    (new.writeValue value.document).failed = false ↔ value.Legible := by
  simp only [CapabilityValue.validateFor, refuseIf_bind_eq_ok] at valid
  obtain ⟨_, _, shape⟩ := valid
  cases value with
  | real x =>
    rw [refuseIf_eq_ok, Bool.not_eq_false] at shape
    simp (disch := decide) only [CapabilityValue.document, object_written, members_written,
      shape_written, real_value_written shape, CapabilityValue.Legible, Bool.false_or]
    exact iff_of_true rfl trivial
  | text t =>
    simp (disch := decide) only [CapabilityValue.document, object_written, members_written,
      shape_written, Bool.or_eq_false_iff, text_value_written, true_and]
    exact and_iff_left rfl
  | enumSet set =>
    simp (disch := decide) only [CapabilityValue.document, object_written, members_written,
      shape_written, Bool.or_eq_false_iff, array_written, true_and]
    exact iff_of_true ⟨fun _ _ => rfl, rfl⟩ trivial
  | textSet set =>
    simp (disch := decide) only [CapabilityValue.document, object_written, members_written,
      shape_written, Bool.or_eq_false_iff, array_written, text_value_written, true_and]
    exact and_iff_left rfl
  | spectrum set =>
    simp only [forEach_eq_ok, CapabilityValue.validateSpectrumDescriptor, refuseIf_bind_eq_ok,
      not_or, Bool.not_eq_false] at shape
    simp (disch := decide) only [CapabilityValue.document, object_written, members_written,
      shape_written, Bool.or_eq_false_iff, array_written, true_and]
    refine (and_iff_left rfl).trans (forall₂_congr fun d member => ?_)
    exact descriptor_written (shape d member).1.1 (shape d member).1.2
  | none =>
    simp (disch := decide) only [CapabilityValue.document, object_written, members_written,
      shape_written, Bool.false_or]
    exact iff_of_true rfl trivial
  | _ =>
    simp (disch := decide) only [CapabilityValue.document, object_written, members_written,
      shape_written, Bool.or_eq_false_iff, true_and]
    exact iff_of_true ⟨rfl, rfl⟩ trivial

/-- What is known about an attribute can be written when its texts are UTF-8 (source
`write_attribute_reference`). -/
lemma reference_written (accepted : resolver.Accepted) :
    (new.writeValue (referenceDocument resolver reference)).failed = false ↔
      isValidUtf8 reference.2.2 = true ∧
        ∀ value, resolver.known reference = some value → value.Legible := by
  simp (disch := decide) only [referenceDocument, object_written, members_written,
    Bool.or_eq_false_iff, text_value_written]
  cases known : resolver.known reference with
  | none =>
    exact ⟨fun h => ⟨h.2.2.2.1, fun _ none => nomatch none⟩,
      fun h => ⟨rfl, rfl, rfl, h.1, rfl, rfl, rfl⟩⟩
  | some value =>
    have legible := document_written (accepted _ _ known)
    constructor
    · rintro ⟨_, _, _, subkey, _, written, _⟩
      refine ⟨subkey, fun value' same => ?_⟩
      cases same
      exact legible.1 written
    · rintro ⟨subkey, all⟩
      exact ⟨rfl, rfl, rfl, subkey, rfl, legible.2 (all value rfl), rfl⟩

/-- The document of the knowledge can be written when its texts are UTF-8 (source
`digest_inputs`). -/
lemma inputs_written (accepted : resolver.Accepted) :
    (new.writeValue (inputsDocument query rules resolver)).failed = false ↔
      resolver.Legible rules := by
  simp (disch := decide) only [inputsDocument, object_written, members_written,
    Bool.or_eq_false_iff, text_value_written, array_written, reference_written accepted]
  exact ⟨fun h => h.2.2.1, fun h => ⟨rfl, query.port.isValidUtf8, h, rfl, rfl⟩⟩

/-- SHA-256 tells two documents that fit into memory apart, and gives neither the digest of what
cannot be written (source `sha256`). -/
structure CollisionFree (a b : Value) : Prop where
  short : (new.writeValue a).bytes.length < 2 ^ 64
  short' : (new.writeValue b).bytes.length < 2 ^ 64
  apart : sha256 (new.writeValue a).bytes = sha256 (new.writeValue b).bytes →
    (new.writeValue a).bytes = (new.writeValue b).bytes
  nonzero : sha256 (new.writeValue a).bytes ≠ Digest.zero
  nonzero' : sha256 (new.writeValue b).bytes ≠ Digest.zero

/-- A document that can be written is named by its digest (source `CanonicalWriter::digest`). -/
lemma CollisionFree.eq {a b : Value} (free : CollisionFree a b)
    (written : (new.writeValue a).failed = false ∨ (new.writeValue b).failed = false)
    (same : (new.writeValue a).digest = (new.writeValue b).digest) : a = b := by
  unfold CanonicalWriter.digest at same
  cases here : (new.writeValue a).failed with
  | false =>
    cases there : (new.writeValue b).failed with
    | false =>
      rw [here, there] at same
      exact writeValue_inj here there free.short (free.apart same)
    | true =>
      rw [here, there] at same
      exact absurd same free.nonzero
  | true =>
    have there := written.resolve_left (by simp [here])
    rw [here, there] at same
    exact absurd same.symm free.nonzero'

/-- A disabled rule: its attributes are in the digest, and it decides nothing (source
`evaluate_compatibility`, `digest_inputs`). -/
def CompatRuleRecord.disabled (record : CompatRuleRecord) : CompatRuleRecord :=
  { record with rule := { record.rule with enabled := false } }

/-- A rule that approves when an attribute has a value. -/
def probe (reference : AttributeReference) (value : CapabilityValue) : CompatRuleRecord where
  id := 1
  rule := { powerClassRule with
    requirements := [{
      subject := reference.1, key := reference.2.1, subkey := reference.2.2, op := .equals
      operand := value, note := [] }] }
  source := 1
  sourceEpoch := 1
  generation := 1
  sequence := 1
  live := true

/-- A probe next to disabled rules refers to nothing new (source `digest_inputs`, `references`). -/
lemma attributeReferences_probe (member : reference ∈ attributeReferences rules)
    (value : CapabilityValue) :
    attributeReferences (rules.map (·.disabled) ++ [probe reference value]) =
      attributeReferences rules := by
  refine attributeReferences_congr fun other => ?_
  rw [mem_attributeReferences] at member ⊢
  rw [mem_attributeReferences]
  constructor
  · rintro ⟨record, inRules, r, asked, rfl⟩
    obtain disabled | probed := List.mem_append.1 inRules
    · obtain ⟨record, original, rfl⟩ := List.mem_map.1 disabled
      exact ⟨record, original, r, asked, rfl⟩
    · obtain rfl := List.mem_singleton.1 probed
      obtain rfl := List.mem_singleton.1 asked
      exact member
  · rintro ⟨record, inRules, r, asked, rfl⟩
    exact ⟨record.disabled, List.mem_append_left _ (List.mem_map_of_mem inRules), r, asked, rfl⟩

/-- Only the probe is considered (source `evaluate_compatibility`, `ordered`). -/
lemma mem_consideredRules_probe [StdSort] (room : query.maxRules ≠ 0) {record : CompatRuleRecord}
    {value : CapabilityValue} :
    record ∈ consideredRules query (rules.map (·.disabled) ++ [probe reference value]) ↔
      record = probe reference value := by
  have applying : (rules.map (·.disabled) ++ [probe reference value]).filter (·.applies) =
      [probe reference value] := by
    have none : (rules.map (·.disabled)).filter (·.applies) = [] := by
      simp [CompatRuleRecord.applies, CompatRuleRecord.disabled]
    rw [List.filter_append, none]
    rfl
  have one : 1 ≤ query.maxRules.toNat := Nat.pos_of_ne_zero fun zero =>
    room (UInt32.toNat_inj.1 zero)
  rw [mem_consideredRules (by rw [applying]; exact one), ← List.mem_filter, applying,
    List.mem_singleton]

/-- A probe approves when the attribute is established with an equal value (source
`evaluate_requirement`). -/
lemma outcome_probe [StdSort] (room : query.maxRules ≠ 0) {value : CapabilityValue}
    {generation : Generation} {now : WallNs} {domain : ClockDomainId} :
    (evaluateCompatibility query (rules.map (·.disabled) ++ [probe reference value]) resolver
        generation now domain).outcome = .compatible ↔
      ∃ value', resolver.EstablishesAt reference value' ∧ value'.equal value = true := by
  let asked : Requirement := {
    subject := reference.1, key := reference.2.1, subkey := reference.2.2, op := .equals
    operand := value, note := [] }
  have satisfied : (probe reference value).Satisfied resolver ↔
      (evaluateRequirement asked resolver).state = .satisfied := List.forall_mem_singleton
  have answer {value' : CapabilityValue} (known : resolver.EstablishesAt reference value') :
      (evaluateRequirement asked resolver).state =
        if value'.equal value then .satisfied else .violated := by
    have known : resolver.Establishes asked.subject asked.key asked.subkey value' := known
    obtain ⟨evaluation, _, answer⟩ := evaluateRequirement_state known
    rw [answer]
    rfl
  simp only [outcome_compatible_iff, mem_consideredRules_probe room, exists_eq_left, forall_eq]
  constructor
  · rintro ⟨⟨_, all⟩, _⟩
    have here := satisfied.1 all
    have decided : (evaluateRequirement asked resolver).state ≠ .indeterminate := by simp [here]
    obtain ⟨value', known⟩ := establishes_of_decided decided
    refine ⟨value', known, ?_⟩
    by_contra differ
    rw [answer known, if_neg differ] at here
    cases here
  · rintro ⟨value', known, same⟩
    have all : (probe reference value).Satisfied resolver :=
      satisfied.2 (by rw [answer known, if_pos same])
    refine ⟨⟨rfl, all⟩, ?_, all.not_waits⟩
    rintro ⟨denies | refuses, _⟩
    · cases denies
    · cases refuses

/-- Every two decisions on these attributes with one inputs digest have one outcome and one closure
(source `CompatDecision::inputs_digest`). -/
def DigestIdentifies [StdSort] (query : CompatQuery) (references : List AttributeReference)
    (resolver resolver' : AttributeResolver) : Prop :=
  ∀ rules generation now domain generation' now' domain',
    attributeReferences rules = references →
    (evaluateCompatibility query rules resolver generation now domain).inputsDigest =
      (evaluateCompatibility query rules resolver' generation' now' domain').inputsDigest →
    (evaluateCompatibility query rules resolver generation now domain).outcome =
        (evaluateCompatibility query rules resolver' generation' now' domain').outcome ∧
      (evaluateCompatibility query rules resolver generation now domain).closure =
        (evaluateCompatibility query rules resolver' generation' now' domain').closure

/-- States that get one digest whatever they know agree where a probe would tell them apart (source
`CanonicalWriter::digest`). -/
lemma establishes_of_identifies [StdSort] (accepted : resolver.Accepted)
    (room : query.maxRules ≠ 0) (member : reference ∈ attributeReferences rules)
    (same : digestInputs query rules resolver = digestInputs query rules resolver')
    (identifies : DigestIdentifies query (attributeReferences rules) resolver resolver')
    {value : CapabilityValue} (known : resolver.EstablishesAt reference value) :
    ∃ value', resolver'.EstablishesAt reference value' ∧ value'.equal value = true := by
  have references := attributeReferences_probe member value
  have digests : digestInputs query (rules.map (·.disabled) ++ [probe reference value]) resolver =
      digestInputs query (rules.map (·.disabled) ++ [probe reference value]) resolver' := by
    unfold digestInputs at same ⊢
    rw [references]
    exact same
  have self := equal_self_of_validateFor (accepted _ _ (establishesAt_iff.1 known).1)
  have approved : (evaluateCompatibility query (rules.map (·.disabled) ++ [probe reference value])
      resolver 0 0 0).outcome = .compatible := (outcome_probe room).2 ⟨value, known, self⟩
  rw [(identifies _ 0 0 0 0 0 0 references digests).1] at approved
  exact (outcome_probe room).1 approved

/-- The inputs digest identifies what a decision used exactly when no rule is considered, or one of
the two documents can be written, or the states agree on every attribute that the rules refer to
(source `evaluate_compatibility`, `digest_inputs`). -/
theorem inputs_digest_identifies_iff [StdSort] (accepted : resolver.Accepted)
    (accepted' : resolver'.Accepted)
    (free : CollisionFree (inputsDocument query rules resolver)
      (inputsDocument query rules resolver')) :
    DigestIdentifies query (attributeReferences rules) resolver resolver' ↔
      query.maxRules = 0 ∨ resolver.Legible rules ∨ resolver'.Legible rules ∨
        ∀ reference ∈ attributeReferences rules, resolver.AgreesOn resolver' reference := by
  constructor
  · intro identifies
    by_contra neither
    simp only [not_or] at neither
    obtain ⟨room, illegible, illegible', differ⟩ := neither
    have failed : (new.writeValue (inputsDocument query rules resolver)).failed = true := by
      rw [← Bool.not_eq_false, inputs_written accepted]
      exact illegible
    have failed' : (new.writeValue (inputsDocument query rules resolver')).failed = true := by
      rw [← Bool.not_eq_false, inputs_written accepted']
      exact illegible'
    -- neither document was written, so both digests are the zero digest
    have same : digestInputs query rules resolver = digestInputs query rules resolver' := by
      rw [digestInputs_eq, digestInputs_eq, CanonicalWriter.digest, CanonicalWriter.digest,
        if_pos failed, if_pos failed']
    have identifies' : DigestIdentifies query (attributeReferences rules) resolver' resolver := by
      intro rules' _ _ _ _ _ _ references digests
      obtain ⟨outcome, closure⟩ := identifies rules' _ _ _ _ _ _ references digests.symm
      exact ⟨outcome.symm, closure.symm⟩
    refine differ fun reference member => ⟨fun value known => ?_, fun value' known' => ?_⟩
    · obtain ⟨value', known', equal⟩ :=
        establishes_of_identifies accepted room member same identifies known
      exact ⟨value', known', CapabilityValue.equal_symm equal⟩
    · exact establishes_of_identifies accepted' room member same.symm identifies' known'
  · intro condition rules' _ _ _ _ _ _ references digests
    rw [outcome_eq, outcome_eq, closure_eq, closure_eq]
    suffices answer : (scanRules resolver (consideredRules query rules')).answer =
        (scanRules resolver' (consideredRules query rules')).answer by
      rw [answer]
      exact ⟨rfl, rfl⟩
    obtain none | named | agrees : query.maxRules = 0 ∨
        ((new.writeValue (inputsDocument query rules resolver)).failed = false ∨
          (new.writeValue (inputsDocument query rules resolver')).failed = false) ∨
        ∀ reference ∈ attributeReferences rules, resolver.AgreesOn resolver' reference := by
      rw [inputs_written accepted, inputs_written accepted', or_assoc]
      exact condition
    · rw [consideredRules, none]
      rfl
    · have documents (resolver : AttributeResolver) :
          inputsDocument query rules' resolver = inputsDocument query rules resolver := by
        rw [inputsDocument, references, ← inputsDocument]
      have digests' : digestInputs query rules' resolver = digestInputs query rules' resolver' :=
        digests
      rw [digestInputs_eq, digestInputs_eq, documents, documents] at digests'
      have same := free.eq named digests'
      simp only [inputsDocument, Value.members.injEq, List.cons.injEq, Prod.mk.injEq,
        Value.array.injEq, true_and, and_true] at same
      refine answer_of_agreesOn fun reference member => ?_
      rw [references] at member
      exact agreesOn_of_document accepted (List.map_inj_left.1 same reference member)
    · refine answer_of_agreesOn fun reference member => ?_
      rw [references] at member
      exact agrees reference member

end Knowledge

/-- A module with one vendor-specific text. -/
def vendorText (value : Bytes) : AttributeResolver := some fun subject key subkey =>
  if (subject, key, subkey) = (.module, .vendorSpecific, text "x") then some {
    key, subkey, outcome := .singleSource, hasValue := true, value := .text value
    declarations := [], superseded := [], digest := Digest.zero }
  else none

/-- Every text is accepted for a vendor-specific attribute (source
`CapabilityValue::validate_for`). -/
lemma vendorText_accepted (value : Bytes) : (vendorText value).Accepted := by
  rintro ⟨subject, key, subkey⟩ known found
  simp only [AttributeResolver.known, AttributeResolver.answer, vendorText, Option.bind_some]
    at found
  split at found
  · rename_i here
    cases here
    cases found
    rfl
  · cases found

/-- A rule about the vendor-specific text. -/
def vendorRule (value : Bytes) : CompatRuleRecord :=
  probe (.module, .vendorSpecific, text "x") (.text value)

/-- The digest tells a text from no knowledge. -/
theorem inputs_digest_identifies_vendor_text :
    DigestIdentifies narrowQuery (attributeReferences [vendorRule (text "a")])
        (vendorText (text "a")) none ↔
      narrowQuery.maxRules = 0 ∨ (vendorText (text "a")).Legible [vendorRule (text "a")] ∨
        AttributeResolver.Legible none [vendorRule (text "a")] ∨
        ∀ reference ∈ attributeReferences [vendorRule (text "a")],
          (vendorText (text "a")).AgreesOn none reference := by
  obtain ⟨nonzero, nonzero', apart⟩ :
      sha256 (new.writeValue (inputsDocument narrowQuery [vendorRule (text "a")]
          (vendorText (text "a")))).bytes ≠ Digest.zero ∧
        sha256 (new.writeValue (inputsDocument narrowQuery [vendorRule (text "a")]
          none)).bytes ≠ Digest.zero ∧
        sha256 (new.writeValue (inputsDocument narrowQuery [vendorRule (text "a")]
            (vendorText (text "a")))).bytes ≠
          sha256 (new.writeValue (inputsDocument narrowQuery [vendorRule (text "a")]
            none)).bytes := by decide +kernel
  have free : CollisionFree
      (inputsDocument narrowQuery [vendorRule (text "a")] (vendorText (text "a")))
      (inputsDocument narrowQuery [vendorRule (text "a")] none) := {
    short := by decide +kernel
    short' := by decide +kernel
    apart := fun same => absurd same apart
    nonzero
    nonzero' }
  have nothing : AttributeResolver.Accepted none := fun _ _ known => nomatch known
  exact inputs_digest_identifies_iff (vendorText_accepted _) nothing free

/-- Two texts that are not UTF-8 get one digest and two answers (source `CanonicalWriter::text`,
`CapabilityValue::validate_for`). -/
theorem illegible_text_hides_answer :
    validateRule (vendorRule [0xff]).rule = .ok () ∧
      (vendorText [0xff]).Accepted ∧ (vendorText [0xfe]).Accepted ∧
      (evaluateCompatibility narrowQuery [vendorRule [0xff]] (vendorText [0xff]) 1 0
          0).inputsDigest =
        (evaluateCompatibility narrowQuery [vendorRule [0xff]] (vendorText [0xfe]) 1 0
          0).inputsDigest ∧
      (evaluateCompatibility narrowQuery [vendorRule [0xff]] (vendorText [0xff]) 1 0
          0).outcome = .compatible ∧
      (evaluateCompatibility narrowQuery [vendorRule [0xff]] (vendorText [0xfe]) 1 0
          0).outcome = .unknown :=
  ⟨by decide +kernel, vendorText_accepted _, vendorText_accepted _, by decide +kernel,
    by decide +kernel, by decide +kernel⟩

end TransceiverRegistry

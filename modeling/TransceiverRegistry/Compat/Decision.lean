import TransceiverRegistry.Compat.Evaluation
import Std.Data.ExtTreeSet

/-!
# Compatibility decisions

Port of `evaluate_compatibility` of `compatibility.cpp`: the live, enabled rules within the budget of
the query are evaluated in the order of their priorities, and four buckets of rules decide. The
rendering of a decision as text (`explain_decision`) is not modelled.
-/

namespace TransceiverRegistry

open Lib

/-- The answer to a compatibility query (source `CompatOutcome`). -/
inductive CompatOutcome where
  | unknown | compatible | incompatible | unsupported
deriving DecidableEq

/-- The codes of `CompatOutcome` fit in a byte. -/
lemma CompatOutcome.fits_byte : 3 < 256 := by decide

instance : WireEnum CompatOutcome where
  code := CompatOutcome.ctorIdx
  last := 3
  ofCode := CompatOutcome.ofNat
  last_lt := CompatOutcome.fits_byte
  code_le a := by cases a <;> decide
  ofCode_code := CompatOutcome.ofNat_ctorIdx
  code_ofCode := by decide

/-- How much of the question the rules closed (source `KnowledgeClosure`). -/
inductive KnowledgeClosure where
  | open_ | partial_ | closed
deriving DecidableEq

/-- The codes of `KnowledgeClosure` fit in a byte. -/
lemma KnowledgeClosure.fits_byte : 2 < 256 := by decide

instance : WireEnum KnowledgeClosure where
  code := KnowledgeClosure.ctorIdx
  last := 2
  ofCode := KnowledgeClosure.ofNat
  last_lt := KnowledgeClosure.fits_byte
  code_le a := by cases a <;> decide
  ofCode_code := KnowledgeClosure.ofNat_ctorIdx
  code_ofCode := by decide

/-- A rule and the evaluation of its requirements (source `MatchedRule`). -/
structure MatchedRule where
  id : RuleId
  name : Bytes
  verdict : CompatVerdict
  priority : Int32
  generation : Generation
  rationale : Bytes
  requirements : List RequirementEvaluation

/-- A question about a port and a module incarnation (source `CompatQuery`). -/
structure CompatQuery where
  port : PortKey
  uid : ModuleUid
  incarnation : IncarnationId
  requireLatestGeneration : Bool := true
  expectedGeneration : Generation := 0
  maxRules : UInt32 := 1024

/-- The complete answer (source `CompatDecision`). -/
structure CompatDecision where
  outcome : CompatOutcome
  closure : KnowledgeClosure
  port : PortKey
  uid : ModuleUid
  incarnation : IncarnationId
  generation : Generation
  consideredRules : UInt32
  indeterminateRules : UInt32
  matchedRules : List MatchedRule
  unmetRequirements : List RequirementEvaluation
  violatedRequirements : List RequirementEvaluation
  inputsDigest : Digest
  decisionDigest : Digest
  evaluatedAtWallNs : WallNs
  clockDomain : ClockDomainId

/-- An attribute a rule refers to (source `digest_inputs`, `references`). -/
abbrev AttributeReference := RequirementSubject × CapabilityKey × Bytes

/-- The order of references (source `std::set<std::tuple<...>>`). -/
def compareReference : AttributeReference → AttributeReference → Ordering :=
  compareLex (compareOn fun a => code a.1)
    (compareLex (compareOn fun a => code a.2.1) fun a b => compareBytes a.2.2 b.2.2)

instance : Std.TransCmp compareReference := by
  have : Std.TransCmp fun a b : AttributeReference => compareBytes a.2.2 b.2.2 :=
    { eq_swap := @fun _ _ => @Std.OrientedCmp.eq_swap _ compareBytes _ _ _
      isLE_trans := @fun _ _ _ => @Std.TransCmp.isLE_trans _ compareBytes _ _ _ _ }
  unfold compareReference
  infer_instance

/-- The attributes the rules refer to, in order (source `digest_inputs`, `references`). -/
def attributeReferences (rules : List CompatRuleRecord) : List AttributeReference :=
  (Std.ExtTreeSet.ofList (rules.flatMap fun record => record.rule.requirements.map fun r =>
    (r.subject, r.key, r.subkey)) compareReference).toList

/-- Write what is known about one attribute (source `write_attribute_reference`). -/
def writeAttributeReference (resolver : AttributeResolver) (w : CanonicalWriter)
    (reference : AttributeReference) : CanonicalWriter :=
  let (subject, key, subkey) := reference
  let answer := resolver.bind fun resolve => resolve subject key subkey
  let outcome := (answer.map (·.outcome)).getD .unknown
  let known := (answer.filter (·.hasValue)).map (·.value)
  let w := ((w.beginObject 6).field (text "key")).integer (Int64.ofNat (code key))
  let w := (w.field (text "outcome")).integer (Int64.ofNat (code outcome))
  let w := (w.field (text "subject")).integer (Int64.ofNat (code subject))
  let w := (w.field (text "subkey")).text subkey
  let w := (w.field (text "has_value")).boolean known.isSome
  let w := w.field (text "value")
  match known with
  | some value => value.writeCanonical w
  | none => w.nullValue

/-- The identity of the knowledge a decision depends on (source `digest_inputs`). -/
def digestInputs (query : CompatQuery) (rules : List CompatRuleRecord)
    (resolver : AttributeResolver) : Digest :=
  let references := attributeReferences rules
  let w := ((CanonicalWriter.new.beginObject 4).field (text "incarnation")).integer
    (Int64.ofNat query.incarnation.toNat)
  let w := (w.field (text "port")).text query.port.str
  let w := (w.field (text "attributes")).beginArray references.length
  let w := references.foldl (writeAttributeReference resolver) w
  ((w.field (text "uid")).integer query.uid.toInt64).digest

/-- The rule may take part in a decision (source `evaluate_compatibility`, the first loop). -/
def CompatRuleRecord.applies (record : CompatRuleRecord) : Bool := record.live && record.rule.enabled

/-- The order of rules: the higher priority first, then the lower id (source
`evaluate_compatibility`, the comparator). -/
def CompatRuleRecord.before (a b : CompatRuleRecord) : Bool :=
  if a.rule.priority ≠ b.rule.priority then decide (b.rule.priority < a.rule.priority)
  else decide (a.id < b.id)

/-- The rules that may take part, in order (source `evaluate_compatibility`, `ordered`). -/
def orderedRules [StdSort] (rules : List CompatRuleRecord) : List CompatRuleRecord :=
  StdSort.sort CompatRuleRecord.before (rules.filter (·.applies))

/-- Evaluate the requirements of a rule (source `evaluate_compatibility`, the inner loop). -/
def evaluateRule (resolver : AttributeResolver) (record : CompatRuleRecord) : MatchedRule where
  id := record.id
  name := record.rule.name
  verdict := record.rule.verdict
  priority := record.rule.priority
  generation := record.generation
  rationale := record.rule.rationale
  requirements := record.rule.requirements.map (evaluateRequirement · resolver)

/-- Every requirement is satisfied (source `evaluate_compatibility`, `all_satisfied`). -/
def MatchedRule.allSatisfied (evaluated : MatchedRule) : Bool :=
  evaluated.requirements.all (·.state = .satisfied)

/-- Some requirement is undecided (source `evaluate_compatibility`, `any_indeterminate`). -/
def MatchedRule.anyIndeterminate (evaluated : MatchedRule) : Bool :=
  evaluated.requirements.any (·.state = .indeterminate)

/-- What the evaluation of the rules has found (source `evaluate_compatibility`, the buckets). -/
structure RuleScan where
  denies : List MatchedRule := []
  unsupported : List MatchedRule := []
  allows : List MatchedRule := []
  indeterminate : List MatchedRule := []
  unmet : List RequirementEvaluation := []
  violated : List RequirementEvaluation := []

/-- Put an evaluated rule into its bucket (source `evaluate_compatibility`, the loop). -/
def RuleScan.add (scan : RuleScan) (evaluated : MatchedRule) : RuleScan :=
  let scan := { scan with
    violated := scan.violated ++ evaluated.requirements.filter (·.state = .violated) }
  if evaluated.allSatisfied then
    match evaluated.verdict with
    | .incompatible => { scan with denies := scan.denies ++ [evaluated] }
    | .unsupported => { scan with unsupported := scan.unsupported ++ [evaluated] }
    | .compatible => { scan with allows := scan.allows ++ [evaluated] }
    | .unknown => scan
  else if evaluated.anyIndeterminate then
    -- an undecided rule is not a rule that does not apply
    { scan with
      unmet := scan.unmet ++ evaluated.requirements.filter (·.state = .indeterminate)
      indeterminate := scan.indeterminate ++ [evaluated] }
  else scan

/-- Evaluate rules in order (source `evaluate_compatibility`, the loop). -/
def scanRules (resolver : AttributeResolver) (considered : List CompatRuleRecord) : RuleScan :=
  considered.foldl (fun scan record => scan.add (evaluateRule resolver record)) {}

/-- What the buckets decide (source `evaluate_compatibility`, the branches on the buckets). -/
def RuleScan.verdict (scan : RuleScan) : CompatOutcome × KnowledgeClosure × List MatchedRule :=
  if scan.denies ≠ [] then (.incompatible, .closed, scan.denies)
  else if scan.unsupported ≠ [] then (.unsupported, .closed, scan.unsupported)
  else if scan.allows ≠ [] ∧ scan.indeterminate = [] then (.compatible, .closed, scan.allows)
  else (.unknown, if scan.indeterminate = [] then .open_ else .partial_,
    scan.allows ++ scan.indeterminate)

/-- Write one matched rule for the digest (source `evaluate_compatibility`, the last loop). -/
def writeMatchedRule (w : CanonicalWriter) (rule : MatchedRule) : CanonicalWriter :=
  let w := ((w.beginObject 3).field (text "id")).integer (Int64.ofNat rule.id.toNat)
  let w := (w.field (text "name")).text rule.name
  (w.field (text "verdict")).integer (Int64.ofNat (code rule.verdict))

/-- The identity of a decision (source `evaluate_compatibility`, the writer). -/
def decisionDigest (decision : CompatDecision) : Digest :=
  let w := ((CanonicalWriter.new.beginObject 8).field (text "closure")).integer
    (Int64.ofNat (code decision.closure))
  let w := (w.field (text "considered_rules")).integer
    (Int64.ofNat decision.consideredRules.toNat)
  let w := (w.field (text "generation")).integer decision.generation.toInt64
  let w := (w.field (text "inputs_digest")).binary decision.inputsDigest.bytes.toList
  let w := (w.field (text "matched")).beginArray decision.matchedRules.length
  let w := decision.matchedRules.foldl writeMatchedRule w
  let w := (w.field (text "outcome")).integer (Int64.ofNat (code decision.outcome))
  let w := (w.field (text "uid")).integer decision.uid.toInt64
  ((w.field (text "incarnation")).integer (Int64.ofNat decision.incarnation.toNat)).digest

/-- The rules a query considers: the first `max_rules` in order (source
`evaluate_compatibility`, `ordered.resize`). -/
def consideredRules [StdSort] (query : CompatQuery) (rules : List CompatRuleRecord) :
    List CompatRuleRecord :=
  (orderedRules rules).take query.maxRules.toNat

/-- Answer a query by the rules (source `evaluate_compatibility`). -/
def evaluateCompatibility [StdSort] (query : CompatQuery) (rules : List CompatRuleRecord)
    (resolver : AttributeResolver) (generation : Generation) (now : WallNs)
    (domain : ClockDomainId) : CompatDecision :=
  let considered := consideredRules query rules
  let scan := scanRules resolver considered
  let (outcome, closure, matchedRules) := scan.verdict
  let decision : CompatDecision := {
    outcome, closure, port := query.port, uid := query.uid, incarnation := query.incarnation
    generation, consideredRules := UInt32.ofNat considered.length
    indeterminateRules := UInt32.ofNat scan.indeterminate.length
    matchedRules, unmetRequirements := scan.unmet, violatedRequirements := scan.violated
    inputsDigest := digestInputs query rules resolver, decisionDigest := Digest.zero
    evaluatedAtWallNs := now, clockDomain := domain }
  { decision with decisionDigest := decisionDigest decision }

end TransceiverRegistry

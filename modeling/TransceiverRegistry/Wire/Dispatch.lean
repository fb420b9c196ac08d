import TransceiverRegistry.Codec.Decision
import TransceiverRegistry.Wire.Frame
import TransceiverRegistry.Wire.Request

/-!
# Dispatch

Port of `dispatch` of `wire.cpp`: a request is answered with a response or a failure, and the state
after it is that of the operation it names. The counters of refusals and of queries and the saving of a
snapshot are handed in. So is `explain_decision`, a function of `compatibility.cpp` that is not modelled:
it prints reals through `snprintf`, and its text is sent on as it is.
-/

namespace TransceiverRegistry

open Lib

/-- What a request is answered with, besides the state. -/
structure Service where
  config : RegistryConfig
  clock : Clock
  refusals : UInt64
  queries : UInt64
  /-- Save the state under a path (source `Registry::save`). -/
  save : Bytes → State → Result Unit
  /-- Render a decision (source `explain_decision` of `compatibility.cpp`). -/
  explainDecision : CompatDecision → Bytes

/-- The answer to a request (source `RequestOutcome`). -/
structure RequestOutcome where
  type : MessageType
  body : Value

/-- An error in an answer (source `error_document`). -/
def errorDocument (error : Error) : Value :=
  codecObject [("code", .text error.code.toText), ("message", .text error.message)]

/-- A positive answer (source `make_response`). -/
def makeResponse (id : UInt64) (result : Value) : Value :=
  codecObject [("id", integerOf id.toNat), ("ok", .boolean true), ("result", result)]

/-- A negative answer (source `make_failure`). -/
def makeFailure (id : UInt64) (error : Error) : Value :=
  codecObject [("error", errorDocument error), ("id", integerOf id.toNat), ("ok", .boolean false)]

/-- The answer with a result or an error (source `dispatch`, `succeed` and `fail`). -/
def outcomeOf (id : UInt64) : Result Value → RequestOutcome
  | .ok result => ⟨.response, makeResponse id result⟩
  | .error error => ⟨.failure, makeFailure id error⟩

/-- The document of a list (source `encode_sample_list`, `encode_claim_list`,
`encode_declaration_list`, `encode_event_list`). -/
def listDocument {α : Type} [Codec α] (name : String) (values : List α) : Value :=
  codecObject [(name, encodeRecordArray values)]

/-- The document that an operation was done. -/
def doneDocument (name : String) : Value := codecObject [(name, .boolean true)]

/-- The document of a published rule (source `dispatch`, `compat.rule.publish`). -/
def ruleDocument (handle : CompatRuleHandle) : Value :=
  codecObject [("generation", integerOf handle.generation.toNat), ("id", integerOf handle.id.toNat)]

/-- The state after an operation and the document of its result. -/
def reply {α : Type} (document : α → Value) (outcome : Result (State × α)) :
    Result (State × Value) := do
  let (s', a) ← outcome
  .ok (s', document a)

/-- Carry an operation out (source `dispatch`, the calls of the mutations of `Registry`). No request
retires a rule. -/
def perform [StdSort] (config : RegistryConfig) (clock : Clock) (s : State) :
    Operation → Result (State × Value)
  | .registerSource descriptor policy =>
    reply encode (registerSource config clock descriptor policy s)
  | .registerModule registration authority =>
    reply encode (registerModule config clock registration authority s)
  | .updateIdentity authority module value provenance policy =>
    reply (fun _ => doneDocument "updated")
      (updateIdentity config clock authority module value provenance policy s)
  | .publishCapability authority module key subkey value provenance policy =>
    reply (fun _ => doneDocument "published")
      (publishCapability config clock authority module key subkey value provenance policy s)
  | .publishPortCapability authority port key subkey value provenance policy =>
    reply (fun _ => doneDocument "published")
      (publishPortCapability config clock authority port key subkey value provenance policy s)
  | .attach authority module slot portIndex policy =>
    reply encode (attach config clock authority module slot portIndex policy s)
  | .detach authority slot policy =>
    reply (fun _ => doneDocument "detached") (detach config clock authority slot policy s)
  | .ingestHealth authority module sample policy =>
    reply (fun _ => doneDocument "accepted")
      (ingestHealth config clock authority module sample policy s)
  | .publishThreshold authority threshold policy =>
    reply (fun _ => doneDocument "published") (publishThreshold config authority threshold policy s)
  | .publishRule authority rule policy =>
    reply ruleDocument (publishRule config authority rule policy s)
  | .retireRule authority id policy => reply (fun _ => .null) (retireRule authority id policy s)
  | .transition authority module target reason policy =>
    reply encode (transition config clock authority module target reason policy s)
  | .reconcileLifecycle authority module policy =>
    reply encode (reconcileLifecycle config clock authority module policy s)

section Answers

variable [StdSort] (service : Service) (params : Value) (s : State)

/-- Answer a greeting (source `dispatch`, `hello` and `ping`). -/
def answerHello : Result Value :=
  .ok (codecObject [("protocol", integerOf kWireProtocolVersion.toNat),
    ("registry_incarnation", integerOf s.registryIncarnation.toNat),
    ("version", .text (text "1.0.0"))])

/-- Answer what the registry holds (source `dispatch`, `registry.stats`). -/
def answerStats : Result Value := .ok (encode (stats service.refusals service.queries s))

/-- Answer the generation (source `dispatch`, `registry.generation`). -/
def answerGeneration : Result Value :=
  .ok (codecObject [("generation", integerOf s.generation.toNat)])

/-- Save the registry (source `dispatch`, `registry.save`). -/
def answerSave : Result Value := do
  let path := getTextOr params "path" []
  refuseIf (path = []) (makeError .invalidArgument "registry.save requires a path")
  service.save path s
  .ok (doneDocument "saved")

/-- Answer what is in a slot (source `dispatch`, `attachment.get`). -/
def answerAttachment : Result Value := do
  let slot ← TextKey.parse (← getText params "slot") (text "slot key")
  .ok (encode (← attachmentOfSlot s slot))

/-- Answer the identity of a module (source `dispatch`, `module.identity`). -/
def answerIdentity : Result Value := do
  .ok (encode (← identity s (← readModuleReference params)))

/-- Answer the capabilities of a module (source `dispatch`, `module.capabilities`). -/
def answerCapabilities : Result Value := do
  .ok (encode (← capabilities s (← readModuleReference params)))

/-- Answer how a module is (source `dispatch`, `health.report`). -/
def answerHealth : Result Value := do
  let report ← health service.config service.clock s (← readModuleReference params)
  .ok (encode report.sent)

/-- Answer how much evidence there is (source `dispatch`, `evidence.summary`). -/
def answerSummary : Result Value := do
  .ok (encode (← evidenceSummary service.clock s (← readModuleReference params)))

/-- Answer where a module stands (source `dispatch`, `lifecycle.state`). -/
def answerLifecycleState : Result Value := do
  let state ← lifecycleState s (← readModuleReference params)
  .ok (codecObject [("state", .text state.toText)])

/-- Answer where a module has been (source `dispatch`, `lifecycle.history`). -/
def answerLifecycleHistory : Result Value := do
  .ok (listDocument "events" (← lifecycleHistory s (← readModuleReference params)))

/-- Answer the capabilities of a port (source `dispatch`, `port.capabilities`). -/
def answerPortCapabilities : Result Value := do
  let port ← TextKey.parse (getTextOr params "port" []) (text "port key")
  .ok (encode (← portCapabilities s port))

/-- Read a limit (source `dispatch`, the limits of the queries). -/
def readLimit (refusal : String) : Result UInt64 := do
  let limit := getUnsignedOr params "limit" 64
  refuseIf (4096 < limit) (makeError .capacityExceeded refusal)
  .ok limit

/-- Answer the samples of a module (source `dispatch`, `health.samples`). -/
def answerSamples : Result Value := do
  let module ← readModuleReference params
  let metric ← readName HealthMetric.toText (getTextOr params "metric" (text "unknown"))
    "unknown health metric"
  let lane := getUnsignedOr params "lane" kModuleLane.toUInt64
  refuseIf (65535 < lane) (makeError .invalidArgument "lane index is out of range")
  let limit ← readLimit params "sample query limit is too large"
  let query := { metric, lane := lane.toUInt16, allLanes := getBooleanOr params "all_lanes" true
                 limit, includeSuperseded := getBooleanOr params "include_superseded" false }
  .ok (listDocument "samples" (← samples s module query))

/-- Answer the claims about a module (source `dispatch`, `evidence.claims`). -/
def answerClaims : Result Value := do
  let module ← readModuleReference params
  let field ← readName IdentityField.toText (getTextOr params "field" (text "unknown"))
    "unknown identity field"
  let limit ← readLimit params "claim query limit is too large"
  let query := { field, limit, includeSuperseded := getBooleanOr params "include_superseded" true }
  .ok (listDocument "claims" (← claimHistory s module query))

/-- Answer the declarations about a module (source `dispatch`, `evidence.declarations`). -/
def answerDeclarations : Result Value := do
  let module ← readModuleReference params
  let key ← readName CapabilityKey.toText (getTextOr params "key" (text "unknown"))
    "unknown capability key"
  let limit ← readLimit params "declaration query limit is too large"
  let query := { key, limit, includeSuperseded := getBooleanOr params "include_superseded" true }
  .ok (listDocument "declarations" (← declarationHistory s module query))

/-- The rendering that is sent with a decision (source `evaluate_compatibility`, `explanation`). -/
def explanationOf (explain : Bool) (decision : CompatDecision) : Bytes :=
  if explain then service.explainDecision decision
  else if decision.closure = .open_ then
    text "no compatibility rule approves this port/module pair: " ++
      text "absence of a rule is UNKNOWN, not approval"
  else []

/-- Answer whether a module may run in a port (source `dispatch`, `compat.query`). -/
def answerCompat : Result Value := do
  let port ← TextKey.parse (getTextOr params "port" []) (text "port key")
  let module ← readModuleReference params
  let query : CompatQuery := {
    port, uid := module.uid, incarnation := module.incarnation
    requireLatestGeneration := getBooleanOr params "require_latest_generation" true
    expectedGeneration := getUnsignedOr params "expected_generation" 0 }
  let explain := getBooleanOr params "explain" true
  let decision ← queryCompatibility (service.clock.wallNowNs 0) (service.clock.domain 0) s query
  .ok (encode (ExplainedDecision.mk decision (explanationOf service explain decision)))

/-- The operations that only read the registry, with their answers (source `dispatch`). -/
def answers : List (String × Result Value) := [
  ("hello", answerHello s),
  ("ping", answerHello s),
  ("registry.stats", answerStats service s),
  ("registry.generation", answerGeneration s),
  ("registry.save", answerSave service params s),
  ("attachment.get", answerAttachment params s),
  ("module.identity", answerIdentity params s),
  ("module.capabilities", answerCapabilities params s),
  ("health.report", answerHealth service params s),
  ("evidence.summary", answerSummary service params s),
  ("lifecycle.state", answerLifecycleState params s),
  ("lifecycle.history", answerLifecycleHistory params s),
  ("port.capabilities", answerPortCapabilities params s),
  ("health.samples", answerSamples params s),
  ("evidence.claims", answerClaims params s),
  ("evidence.declarations", answerDeclarations params s),
  ("compat.query", answerCompat service params s)]

/-- Answer an operation that only reads the registry (source `dispatch`). -/
def answer (name : Bytes) : Result Value :=
  (entryNamed (answers service params s) name).getD (.error ⟨.unsupported,
    text "unknown request operation '" ++ name ++ text "'"⟩)

/-- Read the parameters of a mutation and carry it out. -/
def mutation (read : Value → Result Operation) : Result (State × Value) := do
  perform service.config service.clock s (← read params)

/-- Carry an operation with a name out (source `dispatch`, the comparisons with `name`). -/
def carryOut (name : Bytes) : Result (State × Value) :=
  match mutationReader name with
  | some read => mutation service params s read
  | none => return (s, ← answer service params s name)

/-- The result of a request that is an object with an operation (source `dispatch`). -/
def resultOf (request : Value) : Result (State × Value) := do
  refuseIf (request.isObject = false)
    (makeError .malformed "a request must be a canonical object")
  carryOut service (paramsOf request) s (← requestOp request)

/-- Answer a request; a failed one leaves the state as it is (source `dispatch`). -/
def dispatch (request : Value) : RequestOutcome × State :=
  let id := getUnsignedOr request "id" 0
  match resultOf service s request with
  | .ok (s', result) => (outcomeOf id (.ok result), s')
  | .error error => (outcomeOf id (.error error), s)

end Answers

section Steps

variable {s s' : State} {result : Value}

/-- A reply is made of a success (source `dispatch`, `succeed`). -/
lemma reply_eq_ok {α : Type} {document : α → Value} {outcome : Result (State × α)} :
    reply document outcome = .ok (s', result) ↔
      ∃ a, outcome = .ok (s', a) ∧ document a = result := by
  simp only [reply, bind_eq_ok, Except.ok.injEq, Prod.exists, Prod.mk.injEq]
  constructor
  · rintro ⟨_, a, done, rfl, e⟩
    exact ⟨a, done, e⟩
  · rintro ⟨a, done, e⟩
    exact ⟨s', a, done, rfl, e⟩

variable [StdSort] {config : RegistryConfig} {clock : Clock} {service : Service}

/-- What is answered is a step of the registry (source `dispatch`). -/
lemma perform_step {operation : Operation}
    (done : perform config clock s operation = .ok (s', result)) :
    step config s ⟨operation, clock⟩ = some s' := by
  have run : Call.run config ⟨operation, clock⟩ s = .ok s' := by
    cases operation <;> rw [perform, reply_eq_ok] at done <;> obtain ⟨a, done, _⟩ := done <;>
      exact fst_map_eq_ok.2 ⟨a, done⟩
  rw [step, run]

/-- A request fails when it has no result (source `dispatch`). -/
lemma dispatch_failed_iff {request : Value} :
    (dispatch service s request).1.type = .failure ∧ (dispatch service s request).2 = s ↔
      ∀ accepted, resultOf service s request ≠ .ok accepted := by
  unfold dispatch
  cases result : resultOf service s request with
  | ok accepted =>
    constructor
    · rintro ⟨failed, _⟩
      cases failed
    · intro none
      exact absurd rfl (none accepted)
  | error error =>
    refine iff_of_true ⟨rfl, rfl⟩ fun accepted e => ?_
    cases e

/-- A request leaves the state as it is, or it takes a step of the registry (source `dispatch`). -/
lemma dispatch_step (service : Service) (s : State) (request : Value) :
    (dispatch service s request).2 = s ∨ ∃ operation,
      step service.config s ⟨operation, service.clock⟩ = some (dispatch service s request).2 := by
  cases outcome : resultOf service s request with
  | error error =>
    refine .inl (dispatch_failed_iff.2 fun accepted e => ?_).2
    rw [outcome] at e
    cases e
  | ok accepted =>
    have after : (dispatch service s request).2 = accepted.1 := by
      simp only [dispatch, outcome]
    rw [after]
    obtain ⟨_, _, outcome⟩ := bind_eq_ok.1 outcome
    obtain ⟨name, _, outcome⟩ := bind_eq_ok.1 outcome
    unfold carryOut at outcome
    split at outcome
    · obtain ⟨operation, _, done⟩ := bind_eq_ok.1 outcome
      exact .inr ⟨operation, perform_step done⟩
    · obtain ⟨_, _, same⟩ := bind_eq_ok.1 outcome
      cases same
      exact .inl rfl

/-- What holds after every run of the registry holds after every request (source
`Server::serve_connection`). -/
theorem run_dispatch {start : State} (reached : Run (step service.config) Unguarded start s)
    (request : Value) :
    Run (step service.config) Unguarded start (dispatch service s request).2 := by
  obtain same | ⟨operation, taken⟩ := dispatch_step service s request
  · rw [same]
    exact reached
  · exact reached.next trivial taken

end Steps

end TransceiverRegistry

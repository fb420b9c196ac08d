import TransceiverRegistry.Wire.Dispatch

/-!
# The generation fence of a request

A request may name the generation it was made for. Each operation compares one number with the
current generation: that of the module handle, that of `module.register`, or none at all. The fence of
a request is kept when the stale number it carries is the one that its operation compares.
-/

namespace TransceiverRegistry

open Lib

/-- The policy of an operation. -/
def Operation.policy : Operation → MutationPolicy
  | .registerSource _ policy => policy
  | .registerModule registration _ => registration.policy
  | .updateIdentity _ _ _ _ policy => policy
  | .publishCapability _ _ _ _ _ _ policy => policy
  | .publishPortCapability _ _ _ _ _ _ policy => policy
  | .attach _ _ _ _ policy => policy
  | .detach _ _ policy => policy
  | .ingestHealth _ _ _ policy => policy
  | .publishThreshold _ _ policy => policy
  | .publishRule _ _ policy => policy
  | .retireRule _ _ policy => policy
  | .transition _ _ _ _ policy => policy
  | .reconcileLifecycle _ _ policy => policy

/-- The operation with another policy. -/
def Operation.withPolicy (policy : MutationPolicy) : Operation → Operation
  | .registerSource descriptor _ => .registerSource descriptor policy
  | .registerModule registration authority => .registerModule { registration with policy } authority
  | .updateIdentity authority module value provenance _ =>
    .updateIdentity authority module value provenance policy
  | .publishCapability authority module key subkey value provenance _ =>
    .publishCapability authority module key subkey value provenance policy
  | .publishPortCapability authority port key subkey value provenance _ =>
    .publishPortCapability authority port key subkey value provenance policy
  | .attach authority module slot portIndex _ => .attach authority module slot portIndex policy
  | .detach authority slot _ => .detach authority slot policy
  | .ingestHealth authority module sample _ => .ingestHealth authority module sample policy
  | .publishThreshold authority threshold _ => .publishThreshold authority threshold policy
  | .publishRule authority rule _ => .publishRule authority rule policy
  | .retireRule authority id _ => .retireRule authority id policy
  | .transition authority module target reason _ =>
    .transition authority module target reason policy
  | .reconcileLifecycle authority module _ => .reconcileLifecycle authority module policy

/-- The generation an operation expects, zero for none (source the calls of
`RegistryImpl::mutate`). -/
def Operation.expected : Operation → Generation
  | .registerModule registration _ => registration.expectedGeneration
  | .updateIdentity _ module _ _ _ => module.generation
  | .publishCapability _ module _ _ _ _ _ => module.generation
  | .attach _ module _ _ _ => module.generation
  | .ingestHealth _ module _ _ => module.generation
  | .transition _ module _ _ _ => module.generation
  | .reconcileLifecycle _ module _ => module.generation
  | _ => 0

/-- An expected generation is another one than the current one. -/
def Moved (expected current : Generation) : Prop := expected ≠ 0 ∧ expected ≠ current

section Guards

variable {α β : Type} {s : State} {fenced : Bool} {expected : Generation}

/-- The first outcome is the second one unless the registry moved on from what is expected. -/
def Guards (fenced : Bool) (expected : Generation) (s : State) (guarded free : Result α) : Prop :=
  ∀ a, guarded = .ok a ↔ ¬ (fenced = true ∧ Moved expected s.generation) ∧ free = .ok a

/-- The fence of a mutation guards it (source `RegistryImpl::mutate`). -/
lemma guards_mutate {body : State → Generation → Sequence → Result (State × α)} :
    Guards fenced expected s (mutate fenced expected body s) (mutate false expected body s) := by
  rintro ⟨s', a⟩
  rw [mutate_eq_ok, mutate_eq_ok]
  exact and_congr_right fun _ => (and_iff_right fun h => by cases h.1).symm

/-- The checks before a mutation are made with a fence and without one. -/
lemma Guards.bind {x : Result α} {f g : α → Result β}
    (rest : ∀ a, Guards fenced expected s (f a) (g a)) :
    Guards fenced expected s (x >>= f) (x >>= g) := by
  intro b
  rw [bind_eq_ok, bind_eq_ok]
  constructor
  · rintro ⟨a, first, later⟩
    obtain ⟨open_, later⟩ := (rest a b).1 later
    exact ⟨open_, a, first, later⟩
  · rintro ⟨open_, a, first, later⟩
    exact ⟨a, first, (rest a b).2 ⟨open_, later⟩⟩

/-- A reply is guarded as its operation is (source `dispatch`, `succeed`). -/
lemma Guards.reply {document : α → Value} {guarded free : Result (State × α)}
    (h : Guards fenced expected s guarded free) :
    Guards fenced expected s (reply document guarded) (reply document free) := by
  rintro ⟨s', result⟩
  rw [reply_eq_ok, reply_eq_ok]
  constructor
  · rintro ⟨a, done, e⟩
    obtain ⟨open_, done⟩ := (h _).1 done
    exact ⟨open_, a, done, e⟩
  · rintro ⟨open_, a, done, e⟩
    exact ⟨a, (h _).2 ⟨open_, done⟩, e⟩

end Guards

section Perform

variable [StdSort] {config : RegistryConfig} {clock : Clock} {s : State}

/-- An operation is carried out when the registry did not move on from what it expects and the
operation is carried out without its fence (source `RegistryImpl::mutate`). -/
lemma perform_guards (operation : Operation) :
    Guards operation.policy.fenced operation.expected s (perform config clock s operation)
      (perform config clock s (operation.withPolicy .autoRetry)) := by
  cases operation <;> rw [Operation.withPolicy, perform, perform]
  case registerSource => exact .reply (.bind fun _ => .bind fun _ => .bind fun _ => guards_mutate)
  case registerModule =>
    exact .reply (.bind fun _ => .bind fun _ => .bind fun _ => .bind fun _ => guards_mutate)
  case updateIdentity => exact .reply (.bind fun _ => .bind fun _ => guards_mutate)
  case publishCapability =>
    exact .reply (.bind fun _ => .bind fun _ => .bind fun _ => .bind fun _ => guards_mutate)
  case publishPortCapability =>
    exact .reply (.bind fun _ => .bind fun _ => .bind fun _ => .bind fun _ => guards_mutate)
  case attach => exact .reply (.bind fun _ => .bind fun _ => guards_mutate)
  case detach => exact .reply guards_mutate
  case ingestHealth => exact .reply (.bind fun _ => .bind fun _ => guards_mutate)
  case publishThreshold => exact .reply (.bind fun _ => .bind fun _ => guards_mutate)
  case publishRule => exact .reply (.bind fun _ => .bind fun _ => guards_mutate)
  case retireRule => exact .reply guards_mutate
  case transition => exact .reply (.bind fun _ => guards_mutate)
  case reconcileLifecycle => exact .reply guards_mutate

end Perform

/-- The generation in the handle of a module, zero for none (source `Codec<ModuleHandle>::decode`). -/
def handleGeneration (params : Value) : Generation :=
  ((params.find (text "module")).map fun module => getUnsignedOr module "generation" 0).getD 0

/-- The generation a registration expects, zero for none (source `dispatch`, `module.register`). -/
def registrationGeneration (params : Value) : Generation :=
  getUnsignedOr params "expected_generation" 0

/-- The operations that compare a generation, with the place where it stands (source `dispatch`). -/
def fenceReaders : List (String × (Value → Generation)) := [
  ("module.register", registrationGeneration),
  ("identity.update", handleGeneration),
  ("capability.publish", handleGeneration),
  ("attachment.attach", handleGeneration),
  ("health.ingest", handleGeneration),
  ("lifecycle.transition", handleGeneration),
  ("lifecycle.reconcile", handleGeneration)]

/-- The generation an operation with a name compares, zero for none. -/
def comparedGeneration (name : Bytes) (params : Value) : Generation :=
  ((entryNamed fenceReaders name).map (· params)).getD 0

/-- An operation takes its policy from the parameters unless it expects nothing. -/
structure Obeys (params : Value) (fence : Generation) (operation : Operation) : Prop where
  expected : operation.expected = fence
  policy : operation.expected = 0 ∨ readPolicyParam params = .ok operation.policy

section Readers

variable {params : Value} {name : Bytes}

/-- The generation of a handle that is read (source `Codec<ModuleHandle>::decode`). -/
lemma readModuleHandle_generation {module : ModuleHandle}
    (handled : readModuleHandle params = .ok module) :
    module.generation = handleGeneration params := by
  simp only [readModuleHandle, requireParam, bind_eq_ok, orRefuse_eq_ok, decode,
    Except.ok.injEq] at handled
  obtain ⟨encoded, found, _, _, uid, _, incarnation, _, generation, read, key, _, rfl⟩ := handled
  simp only [handleGeneration, found, Option.map_some, Option.getD_some, getUnsignedOr, read]
  rfl

/-- An operation on a handle obeys the generation of the handle. -/
lemma Obeys.handle {module : ModuleHandle} {operation : Operation}
    (handled : readModuleHandle params = .ok module)
    (expects : operation.expected = module.generation)
    (said : readPolicyParam params = .ok operation.policy) :
    Obeys params (handleGeneration params) operation :=
  ⟨expects.trans (readModuleHandle_generation handled), .inr said⟩

/-- An operation that expects nothing obeys every policy. -/
lemma Obeys.free {operation : Operation} (expects : operation.expected = 0) :
    Obeys params 0 operation :=
  ⟨expects, .inl expects⟩

/-- A registration of a source expects nothing (source `dispatch`, `source.register`). -/
lemma readSourceRegister_obeys : Ensures (readSourceRegister params) (Obeys params 0) :=
  .bind fun _ _ => .bind fun _ _ => .ok (.free rfl)

/-- A registration expects the generation in its parameters (source `dispatch`,
`module.register`). -/
lemma readModuleRegister_obeys :
    Ensures (readModuleRegister params) (Obeys params (registrationGeneration params)) :=
  .bind fun _ _ => .bind fun _ _ => .bind fun _ _ => .bind fun _ _ => .bind fun _ _ =>
    .bind fun _ _ => .bind fun _ said => .bind fun _ _ => .ok ⟨rfl, .inr said⟩

/-- A change of an identity field expects the generation of its handle (source `dispatch`,
`identity.update`). -/
lemma readIdentityUpdate_obeys :
    Ensures (readIdentityUpdate params) (Obeys params (handleGeneration params)) :=
  .bind fun _ _ => .bind fun _ handled => .bind fun _ _ => .bind fun _ _ => .bind fun _ _ =>
    .bind fun _ said => .ok (.handle handled rfl said)

/-- A publication has the policy of the request (source `dispatch`, `capability.publish`). -/
lemma readCapability_policy [StdSort] :
    Ensures (readCapability params) fun said => readPolicyParam params = .ok said.policy :=
  .bind fun _ _ => .bind fun _ _ => .bind fun _ _ => .bind fun _ _ => .bind fun _ _ =>
    .bind fun _ _ => .bind fun _ said => .ok said

/-- A declaration about a module expects the generation of its handle (source `dispatch`,
`capability.publish`). -/
lemma readCapabilityPublish_obeys [StdSort] :
    Ensures (readCapabilityPublish params) (Obeys params (handleGeneration params)) :=
  .bind fun _ read => .bind fun _ handled =>
    .ok (.handle handled rfl (readCapability_policy _ read))

/-- A declaration about a port expects nothing (source `dispatch`, `port.capability.publish`). -/
lemma readPortCapabilityPublish_obeys [StdSort] :
    Ensures (readPortCapabilityPublish params) (Obeys params 0) :=
  .bind fun _ _ => .bind fun _ _ => .ok (.free rfl)

/-- An attachment expects the generation of its handle (source `dispatch`, `attachment.attach`). -/
lemma readAttach_obeys : Ensures (readAttach params) (Obeys params (handleGeneration params)) :=
  .bind fun _ _ => .bind fun _ handled => .bind fun _ _ => .bind fun _ said => .bind fun _ _ =>
    .ok (.handle handled rfl said)

/-- A detachment expects nothing (source `dispatch`, `attachment.detach`). -/
lemma readDetach_obeys : Ensures (readDetach params) (Obeys params 0) :=
  .bind fun _ _ => .bind fun _ _ => .bind fun _ _ => .ok (.free rfl)

/-- A sample expects the generation of its handle (source `dispatch`, `health.ingest`). -/
lemma readHealthIngest_obeys :
    Ensures (readHealthIngest params) (Obeys params (handleGeneration params)) :=
  .bind fun _ _ => .bind fun _ handled => .bind fun _ _ => .bind fun _ _ => .bind fun _ said =>
    .ok (.handle handled rfl said)

/-- A threshold expects nothing (source `dispatch`, `health.threshold.publish`). -/
lemma readThresholdPublish_obeys : Ensures (readThresholdPublish params) (Obeys params 0) :=
  .bind fun _ _ => .bind fun _ _ => .bind fun _ _ => .bind fun _ _ => .ok (.free rfl)

/-- A rule expects nothing (source `dispatch`, `compat.rule.publish`). -/
lemma readRulePublish_obeys [StdSort] : Ensures (readRulePublish params) (Obeys params 0) :=
  .bind fun _ _ => .bind fun _ _ => .bind fun _ _ => .bind fun _ _ => .ok (.free rfl)

/-- A transition expects the generation of its handle (source `dispatch`,
`lifecycle.transition`). -/
lemma readTransition_obeys :
    Ensures (readTransition params) (Obeys params (handleGeneration params)) :=
  .bind fun _ _ => .bind fun _ handled => .bind fun _ said => .bind fun _ _ =>
    .ok (.handle handled rfl said)

/-- A reconciliation expects the generation of its handle (source `dispatch`,
`lifecycle.reconcile`). -/
lemma readReconcile_obeys :
    Ensures (readReconcile params) (Obeys params (handleGeneration params)) :=
  .bind fun _ _ => .bind fun _ handled => .bind fun _ said => .ok (.handle handled rfl said)

/-- The entry of a table with a name is one of its entries. -/
lemma entryNamed_eq_some {α : Type} {table : List (String × α)} {a : α}
    (h : entryNamed table name = some a) : ∃ entry ∈ table, text entry.1 = name ∧ entry.2 = a := by
  obtain ⟨entry, found, e⟩ := Option.map_eq_some_iff.1 h
  exact ⟨entry, List.mem_of_find?_eq_some found, by simpa using List.find?_some found, e⟩

/-- The readers give their operations the policy and the generation of the request
(source `dispatch`). -/
lemma obeys_of_mutationReader [StdSort] {read : Value → Result Operation}
    (mutates : mutationReader name = some read) :
    Ensures (read params) (Obeys params (comparedGeneration name params)) := by
  obtain ⟨entry, mem, rfl, rfl⟩ := entryNamed_eq_some mutates
  simp only [mutationReaders, List.mem_cons, List.not_mem_nil, or_false] at mem
  rcases mem with rfl | rfl | rfl | rfl | rfl | rfl | rfl | rfl | rfl | rfl | rfl | rfl <;>
    dsimp only
  · exact readSourceRegister_obeys
  · exact readModuleRegister_obeys
  · exact readIdentityUpdate_obeys
  · exact readCapabilityPublish_obeys
  · exact readPortCapabilityPublish_obeys
  · exact readAttach_obeys
  · exact readDetach_obeys
  · exact readHealthIngest_obeys
  · exact readThresholdPublish_obeys
  · exact readRulePublish_obeys
  · exact readTransition_obeys
  · exact readReconcile_obeys

end Readers

/-- A fence is for another generation: it is neither zero nor the current generation, as an
integer. -/
def StaleFor (current : Generation) (fence : Value) : Prop :=
  ∀ n : Int64, fence = .integer n → n ≠ 0 ∧ n.toInt ≠ current.toNat

/-- The parameters carry a fence for another generation. -/
def CarriesStale (params : Value) (current : Generation) : Prop :=
  (∃ fence, params.find (text "expected_generation") = some fence ∧ StaleFor current fence) ∨
    ∃ module fence, params.find (text "module") = some module ∧
      module.find (text "generation") = some fence ∧ StaleFor current fence

section Dispatch

variable [StdSort] (service : Service) (s : State)

/-- Without its fence the operation in the parameters is carried out. -/
def AcceptedUnfenced (params : Value) (read : Value → Result Operation) : Prop :=
  ∃ operation accepted, read params = .ok operation ∧
    perform service.config service.clock s (operation.withPolicy .autoRetry) = .ok accepted

variable {service} {s} {request : Value} {name : Bytes} {read : Value → Result Operation}

/-- The result of a mutation is that of the operation in its parameters (source `dispatch`). -/
lemma resultOf_mutation (named : requestOp request = .ok name)
    (mutates : mutationReader name = some read) {accepted : State × Value} :
    resultOf service s request = .ok accepted ↔
      ∃ operation, read (paramsOf request) = .ok operation ∧
        perform service.config service.clock s operation = .ok accepted := by
  have object : request.isObject = true := by
    obtain ⟨op, found, _⟩ := bind_eq_ok.1 named
    obtain ⟨v, required, _⟩ := bind_eq_ok.1 found
    obtain ⟨_, present, _⟩ := bind_eq_ok.1 required
    simpa using refuseIf_eq_ok.1 present
  rw [resultOf, refuseIf_bind_eq_ok, named, ok_bind]
  simp only [carryOut, mutates]
  rw [mutation, bind_eq_ok]
  exact and_iff_right (by simp [object])

/-- A request whose policy requires the generation has a result when the generation it compares is
not another one and its operation is accepted without its fence (source `dispatch`,
`RegistryImpl::mutate`). -/
lemma resultOf_eq_ok_iff (named : requestOp request = .ok name)
    (mutates : mutationReader name = some read)
    (policy : readPolicyParam (paramsOf request) = .ok .requireGeneration) :
    (∃ accepted, resultOf service s request = .ok accepted) ↔
      ¬ Moved (comparedGeneration name (paramsOf request)) s.generation ∧
        AcceptedUnfenced service s (paramsOf request) read := by
  simp only [resultOf_mutation named mutates]
  have fenced (operation : Operation) (is : read (paramsOf request) = .ok operation) :
      (operation.policy.fenced = true ∧ Moved operation.expected s.generation) ↔
        Moved (comparedGeneration name (paramsOf request)) s.generation := by
    obtain ⟨expected, said⟩ := obeys_of_mutationReader mutates operation is
    rw [← expected]
    refine and_iff_right_of_imp fun moved => ?_
    rcases said with nothing | said
    · exact absurd nothing moved.1
    · rw [← Except.ok.inj (policy.symm.trans said)]
      rfl
  constructor
  · rintro ⟨accepted, operation, is, done⟩
    obtain ⟨current, unfenced⟩ := (perform_guards operation accepted).1 done
    exact ⟨fun moved => current ((fenced operation is).2 moved), operation, accepted, is, unfenced⟩
  · rintro ⟨current, operation, accepted, is, unfenced⟩
    exact ⟨accepted, operation, is, (perform_guards operation accepted).2
      ⟨fun moved => current ((fenced operation is).1 moved), unfenced⟩⟩

/-- A request whose policy requires the generation and which carries a fence for another generation
fails and changes nothing exactly when its operation compares a generation other than the current one,
or is refused without its fence as well (source `dispatch`, `RegistryImpl::mutate`). -/
theorem fence_kept_iff (named : requestOp request = .ok name)
    (mutates : mutationReader name = some read)
    (policy : readPolicyParam (paramsOf request) = .ok .requireGeneration) :
    (CarriesStale (paramsOf request) s.generation →
        (dispatch service s request).1.type = .failure ∧ (dispatch service s request).2 = s) ↔
      (CarriesStale (paramsOf request) s.generation →
        Moved (comparedGeneration name (paramsOf request)) s.generation ∨
          ¬ AcceptedUnfenced service s (paramsOf request) read) := by
  refine imp_congr_right fun _ => ?_
  rw [dispatch_failed_iff, ← not_exists, resultOf_eq_ok_iff named mutates policy, not_and_or, not_not]

end Dispatch

/-- A service at the still clock. -/
def benchService : Service where
  config := {}
  clock := stillClock
  refusals := 0
  queries := 0
  save _ _ := .ok ()
  explainDecision _ := []

/-- A request with an operation and its parameters (source `Client::call`). -/
def requestFor (op : String) (params : List (String × Value)) : Value :=
  codecObject [("id", integerOf 1), ("op", .text (text op)), ("params", codecObject params)]

/-- Take the module out of the slot `sa`, if the registry is at the first generation. -/
def detachAtFirst : Value := requestFor "attachment.detach"
  [("authority", encode host), ("expected_generation", integerOf 1), ("slot", .text (text "sa"))]

/-- Put the module `A` into the slot `sb`, if the registry is at the first generation. -/
def attachAtFirst : Value := requestFor "attachment.attach"
  [("authority", encode host), ("module", encode (⟨1, 1, 1, bayA⟩ : ModuleHandle)),
    ("slot", .text (text "sb"))]

/-- The integer one is a fence for another generation than the third one. -/
lemma staleFor_one {current : Generation} (third : current = 3) : StaleFor current (integerOf 1) := by
  intro n e
  cases e
  rw [third]
  exact ⟨by decide, by decide⟩

/-- A detachment that expects the first generation is carried out at the third one, under the
default policy (source `dispatch`, `attachment.detach`). -/
theorem stale_detach_accepted :
    ∃ s, Run (step {}) Unguarded State.initial s ∧
      requestOp detachAtFirst = .ok (text "attachment.detach") ∧
      mutationReader (text "attachment.detach") = some readDetach ∧
      readPolicyParam (paramsOf detachAtFirst) = .ok .requireGeneration ∧
      CarriesStale (paramsOf detachAtFirst) s.generation ∧
      (dispatch benchService s detachAtFirst).1.type = .response ∧
      (dispatch benchService s detachAtFirst).2.generation = 4 := by
  have accepted : (runActions (step {}) [registerHost, registerBay bayA .ensureCurrent,
      attachFirst 1 bayA slotA] State.initial).any (fun s => decide (s.generation = 3) &&
        decide ((dispatch benchService s detachAtFirst).1.type = .response) &&
        decide ((dispatch benchService s detachAtFirst).2.generation = 4)) = true := by
    decide +kernel
  obtain ⟨s, reached, shows⟩ := Run.exists_ofActions accepted
  simp only [Bool.and_eq_true, decide_eq_true_eq] at shows
  obtain ⟨⟨third, answered⟩, moved⟩ := shows
  have carries : CarriesStale (paramsOf detachAtFirst) s.generation :=
    .inl ⟨_, rfl, staleFor_one third⟩
  exact ⟨s, reached, rfl, rfl, rfl, carries, answered, moved⟩

/-- An attachment on a handle of the first generation is refused at the third one. -/
theorem fence_kept_iff_attach :
    ∃ s, Run (step {}) Unguarded State.initial s ∧
      (dispatch benchService s attachAtFirst).1.type = .failure ∧
      (dispatch benchService s attachAtFirst).2 = s := by
  have third : (runActions (step {}) [registerHost, registerBay bayA .ensureCurrent,
      attachFirst 1 bayA slotA] State.initial).any (fun s => decide (s.generation = 3)) = true := by
    decide +kernel
  obtain ⟨s, reached, third⟩ := Run.exists_ofActions third
  have third := of_decide_eq_true third
  have carries : CarriesStale (paramsOf attachAtFirst) s.generation :=
    .inr ⟨_, _, rfl, rfl, staleFor_one third⟩
  have moved : Moved (comparedGeneration (text "attachment.attach") (paramsOf attachAtFirst))
      s.generation := by
    rw [third]
    exact ⟨by decide +kernel, by decide +kernel⟩
  have kept := (@fence_kept_iff _ benchService s attachAtFirst (text "attachment.attach") readAttach
    rfl rfl rfl).2 fun _ => .inl moved
  exact ⟨s, reached, kept carries⟩

end TransceiverRegistry

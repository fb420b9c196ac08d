import TransceiverRegistry.Lib.Fencing
import TransceiverRegistry.Registry.Budget
import TransceiverRegistry.Registry.Consistency

/-!
# Epochs and incarnations succeed one another

A source that is registered again with another instance starts a new epoch, and a module that is
registered as a new incarnation starts one. Nothing that names an earlier epoch or incarnation commits
after that: in every run the epochs under which the operations of one source commit, and the
incarnations of one module that they name, never go back.
-/

namespace TransceiverRegistry

open Lib

/-- The authority an operation is carried out under (source `require_authority`). -/
def Operation.authority : Operation → Option AuthorityToken
  | .registerSource _ _ => none
  | .registerModule _ authority => some authority
  | .updateIdentity authority _ _ _ _ => some authority
  | .publishCapability authority _ _ _ _ _ _ => some authority
  | .publishPortCapability authority _ _ _ _ _ _ => some authority
  | .attach authority _ _ _ _ => some authority
  | .detach authority _ _ => some authority
  | .ingestHealth authority _ _ _ => some authority
  | .publishThreshold authority _ _ => some authority
  | .publishRule authority _ _ => some authority
  | .retireRule authority _ _ => some authority
  | .transition authority _ _ _ _ => some authority
  | .reconcileLifecycle authority _ _ => some authority

/-- The incarnation of a module that an operation is about (source `ModuleHandle`). -/
def Operation.module : Operation → Option ModuleHandle
  | .updateIdentity _ module _ _ _ => some module
  | .publishCapability _ module _ _ _ _ _ => some module
  | .attach _ module _ _ _ => some module
  | .ingestHealth _ module _ _ => some module
  | .transition _ module _ _ _ => some module
  | .reconcileLifecycle _ module _ => some module
  | _ => none

/-- The epoch of a source (source `SourceRecord::epoch`). -/
def epochOf (s : State) (source : SourceId) : Option ℕ :=
  s.sources[source]?.map fun record => record.epoch.toNat

/-- The incarnation of a module (source `ModuleRecord::incarnation`). -/
def incarnationOf (s : State) (uid : ModuleUid) : Option ℕ :=
  s.modules[uid]?.map fun record => record.incarnation.toNat

/-- The source and the epoch that a call shows. -/
def Call.epochShown (call : Call) : Option (SourceId × ℕ) :=
  call.operation.authority.map fun token => (token.source, token.epoch.toNat)

/-- The module and the incarnation that a call shows. -/
def Call.incarnationShown (call : Call) : Option (ModuleUid × ℕ) :=
  call.operation.module.map fun handle => (handle.uid, handle.incarnation.toNat)

/-- A call may commit after another one: it shows no earlier epoch of the same source, and no earlier
incarnation of the same module. -/
structure Call.InSuccession (a b : Call) : Prop where
  epoch : ShownInOrder Call.epochShown a b
  incarnation : ShownInOrder Call.incarnationShown a b

section Tables

variable [StdSort] {config : RegistryConfig} {s s' : State} {clock : Clock} {operation : Operation}
  {uid : ModuleUid} {record located : ModuleRecord}

omit [StdSort] in
/-- The ids of a coherent registry are issued and its indexes are exact. -/
lemma Coherent.identified (coherent : Coherent config s) : Identified s where
  sources := ⟨coherent.sources.id, fun i member => (coherent.sources.number.range i member).2⟩
  names := coherent.sources.index
  modules := ⟨coherent.modules.uid, fun i member => (coherent.modules.number.range i member).2⟩
  keys := coherent.modules.index
  rules := ⟨coherent.rules.id, fun i member => (coherent.rules.number.range i member).2⟩

omit [StdSort] in
/-- A module that is located has its incarnation or the next one
(source `Registry::register_module`). -/
lemma Located.later (locate : Located s.modules uid located)
    (found : s.modules[uid]? = some record) : record.incarnation.toNat ≤ located.incarnation.toNat := by
  cases locate with
  | fresh absent =>
    rw [absent] at found
    cases found
  | @current known here same =>
    obtain rfl := Option.some.inj (here.symm.trans found)
    exact Nat.le_of_eq (congrArg UInt32.toNat same.incarnation.symm)
  | @renewed known here room next =>
    obtain rfl := Option.some.inj (here.symm.trans found)
    have last : known.incarnation.toNat ≠ 2 ^ 32 - 1 := fun full => room (UInt32.toNat_inj.1 full)
    have := known.incarnation.toNat_lt
    rw [next, UInt32.toNat_add, UInt32.toNat_one]
    omega

/-- A step keeps the modules, and no incarnation goes back (source `RegistryImpl::mutate`). -/
lemma ModuleStep.keepsModule (taken : ModuleStep config s s' clock operation)
    (found : s.modules[uid]? = some record) :
    ∃ record', s'.modules[uid]? = some record' ∧
      record.incarnation.toNat ≤ record'.incarnation.toNat := by
  -- one record is written, of a module that has it or a later incarnation
  have writes {i : ModuleUid} {written : ModuleRecord}
      (later : ∀ before, s.modules[i]? = some before →
        before.incarnation.toNat ≤ written.incarnation.toNat) :
      ∃ record', (s.modules.insert i written)[uid]? = some record' ∧
        record.incarnation.toNat ≤ record'.incarnation.toNat := by
    by_cases here : i = uid
    · exact ⟨written, getElem?_insert_iff.2 (.inl ⟨here, rfl⟩), later record (here ▸ found)⟩
    · exact ⟨record, getElem?_insert_iff.2 (.inr ⟨here, found⟩), Nat.le_refl _⟩
  have stays {i : ModuleUid} {before after : ModuleRecord} (known : s.modules[i]? = some before)
      (same : after.incarnation = before.incarnation) :
      ∀ other, s.modules[i]? = some other →
        other.incarnation.toNat ≤ after.incarnation.toNat := by
    intro other also
    obtain rfl := Option.some.inj (also.symm.trans known)
    rw [same]
  cases taken with
  | stay quiet written => exact ⟨record, written ▸ found, Nat.le_refl _⟩
  | move quiet known same written =>
    rw [written]
    exact writes (stays known same.incarnation)
  | registerModule live named locate trim same written =>
    rw [written]
    exact writes fun before known => same.incarnation ▸ locate.later known
  | updateIdentity live known trim written =>
    rw [written]
    exact writes (stays known rfl)
  | publishCapability live known trim written =>
    rw [written]
    exact writes (stays known rfl)
  | ingestHealth live known current stores newer latched trims written =>
    rw [written]
    exact writes (stays known rfl)

end Tables

section Credentials

variable [StdSort] {config : RegistryConfig} {s s' : State} {call : Call}

/-- An operation is carried out only under an authority that is accepted
(source `require_authority`). -/
lemma requireAuthority_of_body {operation : Operation} {clock : Clock} {generation : Generation}
    {sequence : Sequence} {token : AuthorityToken}
    (run : operation.body config clock s generation sequence = .ok s')
    (named : operation.authority = some token) : requireAuthority s token = .ok () := by
  cases operation <;> cases named <;> obtain ⟨_, run⟩ := fst_map_eq_ok.1 run
  case registerModule => exact (registerModuleBody_inv run).1
  case updateIdentity => exact (updateIdentityBody_inv run).1
  case publishCapability => exact (publishCapabilityBody_inv run).1
  case publishPortCapability => exact (publishPortCapabilityBody_inv run).1
  case attach => exact (attachBody_inv run).1
  case detach => exact (detachBody_inv run).1
  case ingestHealth => exact (ingestHealthBody_inv run).1
  case publishThreshold => exact (publishThresholdBody_inv run).1
  case publishRule => exact (publishRuleBody_inv run).1
  case retireRule => exact (retireRuleBody_inv run).1
  case transition => exact (transitionBody_inv run).1
  case reconcileLifecycle => exact (reconcileLifecycleBody_inv run).1

/-- An operation about a module is carried out only on the incarnation that it names
(source `incarnation_is_current`). -/
lemma incarnation_of_body {operation : Operation} {clock : Clock} {generation : Generation}
    {sequence : Sequence} {handle : ModuleHandle}
    (run : operation.body config clock s generation sequence = .ok s')
    (named : operation.module = some handle) :
    ∃ record, s.modules[handle.uid]? = some record ∧ record.incarnation = handle.incarnation := by
  cases operation <;> cases named <;> obtain ⟨_, run⟩ := fst_map_eq_ok.1 run
  case updateIdentity =>
    simp only [updateIdentityBody, bind_eq_ok, currentModule_eq_ok] at run
    obtain ⟨record, ⟨_, found, current⟩, _⟩ := run
    exact ⟨record, found, current⟩
  case publishCapability =>
    simp only [publishCapabilityBody, bind_eq_ok, currentModule_eq_ok] at run
    obtain ⟨record, ⟨_, found, current⟩, _⟩ := run
    exact ⟨record, found, current⟩
  case attach =>
    obtain ⟨_, record, found, current, _⟩ := attachBody_inv run
    exact ⟨record, found, current⟩
  case ingestHealth =>
    obtain ⟨_, record, _, _, found, current, _⟩ := ingestHealthBody_inv run
    exact ⟨record, found, current⟩
  case transition =>
    obtain ⟨_, record, found, current, _⟩ := transitionBody_inv run
    exact ⟨record, found, current⟩
  case reconcileLifecycle =>
    obtain ⟨_, record, _, found, current, _⟩ := reconcileLifecycleBody_inv run
    exact ⟨record, found, current⟩

/-- Epochs fence the calls of a source (source `require_authority`,
`Registry::register_source`). -/
lemma epochs_fence : Fencing (step config) (Coherent config) epochOf Call.epochShown where
  keeps coherent taken := coherent.step taken
  grows {s call s' source n} coherent taken known := by
    obtain ⟨record, found, rfl⟩ := Option.map_eq_some_iff.1 known
    obtain ⟨next, written, rfl⟩ := step_tableStep taken
    obtain ⟨record', found', later⟩ := TableStep.keepsSource (s := (nextSequence s).2) written
      { coherent.identified with } found
    exact ⟨_, Option.map_eq_some_iff.2 ⟨record', found', rfl⟩, UInt32.le_iff_toNat_le.1 later⟩
  checks {s call s' source n} taken shows := by
    obtain ⟨token, named, same⟩ := Option.map_eq_some_iff.1 shows
    cases same
    obtain ⟨_, next, run, rfl⟩ := step_eq_some taken
    have live := (requireAuthority_eq_ok.1 (requireAuthority_of_body run named)).2
    rw [sourceIsLive] at live
    split at live
    · rename_i record found
      refine Option.map_eq_some_iff.2 ⟨record, found, ?_⟩
      exact congrArg UInt32.toNat (of_decide_eq_true live)
    · cases live

/-- Incarnations fence the calls about a module (source `incarnation_is_current`,
`Registry::register_module`). -/
lemma incarnations_fence :
    Fencing (step config) (Coherent config) incarnationOf Call.incarnationShown where
  keeps coherent taken := coherent.step taken
  grows {s call s' uid n} coherent taken known := by
    obtain ⟨record, found, rfl⟩ := Option.map_eq_some_iff.1 known
    obtain ⟨record', found', later⟩ := (step_moduleStep coherent taken).keepsModule found
    exact ⟨_, Option.map_eq_some_iff.2 ⟨record', found', rfl⟩, later⟩
  checks {s call s' uid n} taken shows := by
    obtain ⟨handle, named, same⟩ := Option.map_eq_some_iff.1 shows
    cases same
    obtain ⟨_, next, run, rfl⟩ := step_eq_some taken
    obtain ⟨record, found, current⟩ := incarnation_of_body run named
    exact Option.map_eq_some_iff.2 ⟨record, found, congrArg UInt32.toNat current⟩

/-- A call that commits later is in succession. -/
lemma inSuccession_of_run {later : Call} {t t' : State} {ok : State → Call → Prop}
    (coherent : Coherent config s) (taken : step config s call = some t)
    (run : Run (step config) ok s s') (taken' : step config s' later = some t') :
    call.InSuccession later :=
  ⟨epochs_fence.inOrder coherent taken run taken',
    incarnations_fence.inOrder coherent taken run taken'⟩

end Credentials

/-- State the serial number of the second incarnation of the module `A` in the second epoch of the first
source. -/
def stateAgain : Call :=
  Operation.now (.updateIdentity ⟨1, 2⟩ ⟨1, 2, 0, bayA⟩ serialNumber hostEvidence .autoRetry)

/-- In every run the epochs under which the operations of one source commit never go back, nor do the
incarnations of one module that the operations name: once an operation of a later epoch or about a later
incarnation committed, none of an earlier one ever does (source `require_authority`,
`incarnation_is_current`, `RegistryImpl::mutate`). -/
theorem committed_calls_in_succession [StdSort] {config : RegistryConfig}
    {w : State × List Call}
    (run : Run (withHistory (step config) fun _ call _ => [call]) Unguarded (State.initial, []) w) :
    w.2.Pairwise Call.InSuccession := by
  have epochs := epochs_fence.pairwise Coherent.initial run
  have incarnations := incarnations_fence.pairwise Coherent.initial run
  exact (epochs.and incarnations).imp fun both => ⟨both.1, both.2⟩

/-- A statement of the first epoch about the first incarnation, and one of the second epoch about the
second incarnation. -/
theorem committed_calls_in_succession_again :
    ∃ w, Run (withHistory (step {}) fun _ call _ => [call]) Unguarded (State.initial, []) w ∧
      w.2.map Call.epochShown =
        [none, some (1, 1), some (1, 1), some (1, 1), none, some (1, 2)] ∧
      w.2.map Call.incarnationShown = [none, none, some (1, 1), none, none, some (1, 2)] ∧
      w.2.Pairwise Call.InSuccession := by
  have committed : (runActions (withHistory (step {}) fun _ call _ => [call])
      [registerHost, registerBay bayA .ensureCurrent, stateSerial 1,
        registerBay bayA .newIncarnation, registerHost, stateAgain] (State.initial, [])).any
      (fun w => w.2.map Call.epochShown =
          [none, some (1, 1), some (1, 1), some (1, 1), none, some (1, 2)] ∧
        w.2.map Call.incarnationShown = [none, none, some (1, 1), none, none, some (1, 2)]) = true := by
    decide +kernel
  obtain ⟨w, run, shows⟩ := Run.exists_ofActions committed
  obtain ⟨epochs, incarnations⟩ := of_decide_eq_true shows
  exact ⟨w, run, epochs, incarnations, committed_calls_in_succession run⟩

end TransceiverRegistry

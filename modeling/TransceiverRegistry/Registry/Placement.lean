import TransceiverRegistry.Lib.Placement
import TransceiverRegistry.Registry.Coherent

/-!
# Slots as a placement

The registry places modules into slots: the placement of a state reads its live attachments and the
lifecycle of its modules. `step_shifts` shows that every step of the registry is a move of the
placement, so what the moves keep holds of the registry.
-/

namespace TransceiverRegistry

open Lib

/-- Who holds each slot: the module of its live attachment (source `State::attachments`). -/
def slotHolder (attachments : Std.ExtTreeMap Bytes AttachmentRecord compare) (slot : Bytes) :
    Option (ModuleUid × IncarnationId) :=
  (attachments[slot]?.filter (·.live)).map fun a => (a.uid, a.incarnation)

/-- The incarnation and the lifecycle state of each module (source `State::modules`). -/
def moduleLife (modules : Std.ExtTreeMap UInt64 ModuleRecord compare) (uid : ModuleUid) :
    Option (IncarnationId × LifecycleState) :=
  modules[uid]?.map fun record => (record.incarnation, record.state)

/-- The placement of modules into slots (source `State`). -/
def State.placement (s : State) : Placement Bytes ModuleUid IncarnationId LifecycleState :=
  ⟨slotHolder s.attachments, moduleLife s.modules⟩

/-- A slot is held by the module of its live attachment. -/
lemma placement_holder_eq_some {s : State} {slot : Bytes} {uid : ModuleUid}
    {incarnation : IncarnationId} :
    s.placement.holder slot = some (uid, incarnation) ↔
      ∃ a, s.attachments[slot]? = some a ∧ a.live = true ∧ a.uid = uid ∧
        a.incarnation = incarnation := by
  simp [State.placement, slotHolder, Option.filter_eq_some_iff, and_assoc]

/-- The life of a module is its incarnation and its lifecycle state. -/
lemma placement_life_eq_some {s : State} {uid : ModuleUid} {incarnation : IncarnationId}
    {state : LifecycleState} :
    s.placement.life uid = some (incarnation, state) ↔
      ∃ record, s.modules[uid]? = some record ∧ record.incarnation = incarnation ∧
        record.state = state := by
  simp [State.placement, moduleLife]

/-- Writing a module writes its life. -/
lemma moduleLife_insert {modules : Std.ExtTreeMap UInt64 ModuleRecord compare} {uid : ModuleUid}
    {record : ModuleRecord} :
    moduleLife (modules.insert uid record) =
      Function.update (moduleLife modules) uid (some (record.incarnation, record.state)) := by
  funext u
  unfold moduleLife
  rw [Std.ExtTreeMap.getElem?_insert, Function.update_apply]
  by_cases here : u = uid
  · simp [here]
  · simp [here, Ne.symm here]

/-- Writing the evidence of a module leaves its life. -/
lemma moduleLife_insert_same {modules : Std.ExtTreeMap UInt64 ModuleRecord compare}
    {uid : ModuleUid} {record record' : ModuleRecord} (found : modules[uid]? = some record)
    (same : record'.incarnation = record.incarnation ∧ record'.state = record.state) :
    moduleLife (modules.insert uid record') = moduleLife modules := by
  rw [moduleLife_insert, Function.update_eq_self_iff]
  simp [moduleLife, found, same]

/-- Writing a live attachment puts its module into the slot. -/
lemma slotHolder_insert_live {attachments : Std.ExtTreeMap Bytes AttachmentRecord compare}
    {slot : Bytes} {a : AttachmentRecord} (live : a.live = true) :
    slotHolder (attachments.insert slot a) =
      Function.update (slotHolder attachments) slot (some (a.uid, a.incarnation)) := by
  funext k
  unfold slotHolder
  rw [Std.ExtTreeMap.getElem?_insert, Function.update_apply]
  by_cases here : k = slot
  · simp [here, live]
  · simp [here, Ne.symm here]

/-- Writing a dead attachment frees the slot. -/
lemma slotHolder_insert_dead {attachments : Std.ExtTreeMap Bytes AttachmentRecord compare}
    {slot : Bytes} {a : AttachmentRecord} (dead : a.live = false) :
    slotHolder (attachments.insert slot a) =
      Function.update (slotHolder attachments) slot none := by
  funext k
  unfold slotHolder
  rw [Std.ExtTreeMap.getElem?_insert, Function.update_apply]
  by_cases here : k = slot
  · simp [here, dead]
  · simp [here, Ne.symm here]

/-- Releasing the slots of a module evicts it. -/
lemma slotHolder_release {attachments : Std.ExtTreeMap Bytes AttachmentRecord compare}
    {uid : ModuleUid} :
    slotHolder (attachments.map fun _ a => releaseAttachment uid a) =
      fun slot => (slotHolder attachments slot).filter fun x => x.1 ≠ uid := by
  funext k
  unfold slotHolder releaseAttachment
  rw [Std.ExtTreeMap.getElem?_map]
  cases attachments[k]? with
  | none => rfl
  | some a =>
    by_cases live : a.live = true
    · by_cases here : a.uid = uid
      · simp [Option.filter_some, live, here]
      · simp [Option.filter_some, live, here]
    · simp [Option.filter_some, live]

/-- The moves of a placement that an operation may make; `named` finds the module of a key. -/
inductive Shifts (p : Placement Bytes ModuleUid IncarnationId LifecycleState)
    (named : Bytes → Option ModuleUid) :
    Operation → Placement Bytes ModuleUid IncarnationId LifecycleState → Prop where
  /-- Nothing moves. -/
  | stay {operation} : Shifts p named operation p
  /-- A registration adds a module (source `Registry::register_module`, the first branch). -/
  | discover {registration authority uid} : p.life uid = none →
      Shifts p named (.registerModule registration authority)
        (p.become uid 1 .registered)
  /-- A registration settles a module (source `Registry::register_module`, the second lookup). -/
  | settle {registration authority uid incarnation} :
      p.life uid = some (incarnation, .discovered) →
      Shifts p named (.registerModule registration authority)
        (p.become uid incarnation .registered)
  /-- A registration evicts a module and starts its next incarnation
  (source `Registry::register_module`, the replacement branch). -/
  | renew {registration authority uid incarnation} :
      Shifts p named (.registerModule registration authority)
        ((p.evict uid).become uid incarnation .registered)
  /-- A registration starts the next incarnation of a module that is replaced or retired already
  and keeps its slots (source `Registry::register_module`, the replacement branch). -/
  | revive {registration authority uid incarnation state incarnation'} :
      registration.intent = .newIncarnation → named registration.key.str = some uid →
      p.life uid = some (incarnation, state) → state = .replaced ∨ state = .retired →
      Shifts p named (.registerModule registration authority)
        (p.become uid incarnation' .registered)
  /-- An attach puts a module into a slot (source `Registry::attach`). -/
  | occupy {authority module slot portIndex policy state} :
      p.life module.uid = some (module.incarnation, state) →
      p.holder slot.str ≠ some (module.uid, module.incarnation) →
      Shifts p named (.attach authority module slot portIndex policy)
        ((p.occupy slot.str module.uid module.incarnation).become module.uid
          module.incarnation .attached)
  /-- A detach frees a slot whose module is not placed in it (source `Registry::detach`). -/
  | vacate {authority slot policy uid incarnation} :
      p.holder slot.str = some (uid, incarnation) →
      (∀ state, p.life uid = some (incarnation, state) →
        lifecycleStateImpliesAttachment state = false) →
      Shifts p named (.detach authority slot policy) (p.vacate slot.str)
  /-- A detach frees a slot and removes its module (source `Registry::detach`). -/
  | remove {authority slot policy uid incarnation state} :
      p.holder slot.str = some (uid, incarnation) →
      p.life uid = some (incarnation, state) →
      lifecycleStateImpliesAttachment state = true →
      Shifts p named (.detach authority slot policy)
        ((p.vacate slot.str).become uid incarnation .removed)
  /-- An operator moves a module (source `Registry::transition`). -/
  | move {authority module target reason policy state} :
      p.life module.uid = some (module.incarnation, state) →
      lifecycleTransitionAllowed state target = true →
      Shifts p named (.transition authority module target reason policy)
        (p.become module.uid module.incarnation target)
  /-- The health evidence moves a placed module (source `Registry::reconcile_lifecycle`). -/
  | reconcile {authority module policy state target} :
      p.life module.uid = some (module.incarnation, state) →
      lifecycleStateImpliesAttachment state = true →
      Shifts p named (.reconcileLifecycle authority module policy)
        (p.become module.uid module.incarnation target)

variable {config : RegistryConfig} {clock : Clock} {s s' : State} {generation : Generation}
  {sequence : Sequence} {authority : AuthorityToken} {module : ModuleHandle}

/-- Writing the evidence of a module moves nothing. -/
lemma Shifts.evidence {named : Bytes → Option ModuleUid} {operation : Operation} {uid : ModuleUid}
    {record record' : ModuleRecord} (found : s.modules[uid]? = some record)
    (slots : s'.attachments = s.attachments) (modules : s'.modules = s.modules.insert uid record')
    (same : record'.incarnation = record.incarnation ∧ record'.state = record.state) :
    Shifts s.placement named operation s'.placement := by
  have unchanged : s'.placement = s.placement := by
    unfold State.placement
    rw [slots, modules, moduleLife_insert_same found same]
  rw [unchanged]
  exact .stay

/-- A registration leaves the module of its key registered unless it was settled before
(source `Registry::register_module`, the second lookup). -/
lemma settleDiscovered_state {now : WallNs} {record record' : ModuleRecord}
    (run : settleDiscovered authority generation sequence now record = .ok record') :
    record'.state = if record.state = .discovered then .registered else record.state := by
  obtain ⟨discovered, rfl⟩ | ⟨settled, rfl⟩ := settleDiscovered_inv run
  · simp [discovered]
  · simp [settled]

/-- A registration admits, settles, renews or revives a module
(source `Registry::register_module`). -/
lemma registerModule_shifts [StdSort] (coherent : Coherent config s)
    {registration : ModuleRegistration} {handle : ModuleHandle}
    (run : registerModuleBody config clock registration authority s generation sequence =
      .ok (s', handle)) : Shifts s.placement (s.moduleUidByKey[·]?) (.registerModule registration authority) s'.placement := by
  obtain ⟨_, t, uid, located, record, claims, locate, settle, _, rfl⟩ :=
    registerModuleBody_inv run
  obtain ⟨_, _, incarnation⟩ := settleDiscovered_same settle
  have state := settleDiscovered_state settle
  simp only [State.placement, moduleLife_insert]
  rw [incarnation, state]
  obtain ⟨unnamed, room, rfl, rfl, rfl⟩ | ⟨old, named, found, ⟨_, _, _, rfl, rfl⟩ | ⟨intent, replaced⟩⟩ :=
    locateModule_inv locate
  · have fresh := coherent.modules.number.fresh (i := s.nextModuleUid) rfl
    have absent : s.placement.life s.nextModuleUid = none := by
      simp [State.placement, moduleLife, Std.ExtTreeMap.getElem?_eq_none fresh]
    rw [moduleLife_insert, Function.update_idem]
    exact .discover absent
  · by_cases discovered : located.state = .discovered
    · rw [if_pos discovered]
      exact .settle (placement_life_eq_some.2 ⟨located, found, rfl, discovered⟩)
    · have known := placement_life_eq_some.2 ⟨located, found, rfl, rfl⟩
      rw [if_neg discovered, ← known]
      simp only [State.placement, Function.update_eq_self]
      exact .stay
  · obtain ⟨_, rfl, rfl⟩ := replaceIncarnation_inv replaced
    have own : old.uid = uid := coherent.modules.uid uid old found
    simp only [if_true]
    split
    · rw [own, slotHolder_release]
      exact .renew
    · rename_i keeps
      have fenced : old.state = .replaced ∨ old.state = .retired := by
        by_contra open_
        exact keeps (not_or.1 open_)
      exact .revive intent named (placement_life_eq_some.2 ⟨old, found, rfl, rfl⟩) fenced

/-- An attach leaves the placement or puts the module into the slot (source `Registry::attach`). -/
lemma attach_shifts (coherent : Coherent config s) {slot : SlotKey} {portIndex : UInt32}
    {policy : MutationPolicy} {attachment : AttachmentRecord}
    (run : attachBody config clock authority module slot portIndex s generation sequence =
      .ok (s', attachment)) :
    Shifts s.placement (s.moduleUidByKey[·]?) (.attach authority module slot portIndex policy) s'.placement := by
  obtain ⟨_, record, found, current, ⟨_, _, rfl⟩ | ⟨other, _, _, rfl, rfl⟩⟩ := attachBody_inv run
  · exact .stay
  · have own : record.uid = module.uid := coherent.modules.uid _ _ found
    have life := placement_life_eq_some.2 ⟨record, found, current, rfl⟩
    have held : s.placement.holder slot.str ≠ some (module.uid, module.incarnation) := by
      intro holds
      obtain ⟨a, taken, live, sameUid, sameIncarnation⟩ := placement_holder_eq_some.1 holds
      have free := other a taken
      simp [AttachmentRecord.holds, live, sameUid, sameIncarnation, own, current] at free
    have attached : (if record.state ≠ .attached then record.move config
          (lifecycleEvent authority generation sequence (clock.wallNowNs 0) record.incarnation
            record.state .attached (text "module attached to slot " ++ slot.str))
        else record).state = .attached := by
      split
      · rfl
      · rename_i already
        exact not_not.1 already
    have kept : (if record.state ≠ .attached then record.move config
          (lifecycleEvent authority generation sequence (clock.wallNowNs 0) record.incarnation
            record.state .attached (text "module attached to slot " ++ slot.str))
        else record).incarnation = module.incarnation := by
      split <;> exact current
    simp only [State.placement, moduleLife_insert]
    rw [slotHolder_insert_live rfl, attached, kept]
    simp only [newAttachment, own, current]
    exact .occupy life held

/-- A detach frees the slot and removes the module placed in it (source `Registry::detach`). -/
lemma detach_shifts {slot : SlotKey} {policy : MutationPolicy} {u : Unit}
    (run : detachBody config clock authority slot s generation sequence = .ok (s', u)) :
    Shifts s.placement (s.moduleUidByKey[·]?) (.detach authority slot policy) s'.placement := by
  obtain ⟨_, attachment, taken, live, rfl⟩ := detachBody_inv run
  have holds := placement_holder_eq_some.2 ⟨attachment, taken, live, rfl, rfl⟩
  simp only [State.placement]
  rw [slotHolder_insert_dead rfl]
  split
  · rename_i record found
    split
    · rename_i placed
      have life := placement_life_eq_some.2 ⟨record, found, placed.1, rfl⟩
      simp only [moduleLife_insert, ModuleRecord.move, placed.1]
      exact .remove holds life placed.2
    · rename_i unplaced
      refine .vacate holds fun state life => ?_
      obtain ⟨record', found', same, rfl⟩ := placement_life_eq_some.1 life
      obtain rfl : record = record' := Option.some.inj (found.symm.trans found')
      exact Bool.eq_false_iff.2 fun placed => unplaced ⟨same, placed⟩
  · rename_i unknown
    refine .vacate holds fun state life => ?_
    obtain ⟨record, found, _⟩ := placement_life_eq_some.1 life
    rw [unknown] at found
    cases found

/-- The body of every operation is a move of the placement (source `RegistryImpl::mutate`). -/
lemma body_shifts [StdSort] (coherent : Coherent config s) {operation : Operation}
    (run : operation.body config clock s generation sequence = .ok s') :
    Shifts s.placement (s.moduleUidByKey[·]?) operation s'.placement := by
  cases operation <;> rw [Operation.body, fst_map_eq_ok] at run <;> obtain ⟨result, run⟩ := run
  case registerSource =>
    obtain ⟨_, _, _, _, _, _, rfl⟩ | ⟨_, _, _, rfl⟩ := registerSourceBody_inv run <;> exact .stay
  case registerModule => exact registerModule_shifts coherent run
  case updateIdentity =>
    obtain ⟨_, record, _, found, _, rfl⟩ := updateIdentityBody_inv run
    exact .evidence found rfl rfl ⟨rfl, rfl⟩
  case publishCapability =>
    obtain ⟨_, record, _, found, _, rfl⟩ := publishCapabilityBody_inv run
    exact .evidence found rfl rfl ⟨rfl, rfl⟩
  case publishPortCapability =>
    obtain ⟨_, _, _, _, _, _, _, rfl⟩ := publishPortCapabilityBody_inv run
    exact .stay
  case attach => exact attach_shifts coherent run
  case detach => exact detach_shifts run
  case ingestHealth =>
    obtain ⟨_, record, _, _, found, _, _, _, _, _, _, rfl⟩ := ingestHealthBody_inv run
    exact .evidence found rfl rfl ⟨rfl, rfl⟩
  case publishThreshold =>
    obtain ⟨_, _, rfl⟩ := publishThresholdBody_inv run
    exact .stay
  case publishRule =>
    obtain ⟨_, _, rfl⟩ := publishRuleBody_inv run
    exact .stay
  case retireRule =>
    obtain ⟨_, _, _, _, rfl⟩ := retireRuleBody_inv run
    exact .stay
  case transition =>
    obtain ⟨_, record, found, current, allowed, rfl, rfl⟩ := transitionBody_inv run
    have life := placement_life_eq_some.2 ⟨record, found, current, rfl⟩
    simp only [State.placement, moduleLife_insert, ModuleRecord.move, current]
    exact .move life allowed
  case reconcileLifecycle =>
    obtain ⟨_, record, target, found, current, rfl, ⟨_, rfl⟩ | ⟨moved, _, rfl, rfl⟩⟩ :=
      reconcileLifecycleBody_inv run
    · exact .stay
    · obtain same | ⟨placed, _⟩ := reconcileTarget_cases record.state
        (buildHealthReport config (clock.wallNowNs 1) (clock.domain 0) s record)
      · exact absurd same moved
      · have life := placement_life_eq_some.2 ⟨record, found, current, rfl⟩
        simp only [State.placement, moduleLife_insert, ModuleRecord.move, current]
        exact .reconcile life placed

/-- Every step of the registry is a move of the placement (source `RegistryImpl::mutate`). -/
theorem step_shifts [StdSort] (coherent : Coherent config s) {call : Call}
    (taken : step config s call = some s') : Shifts s.placement (s.moduleUidByKey[·]?) call.operation s'.placement := by
  obtain ⟨_, next, run, rfl⟩ := step_eq_some taken
  have shifts := body_shifts coherent.nextSequence run
  exact shifts

end TransceiverRegistry

import TransceiverRegistry.Lib.Threads
import TransceiverRegistry.Registry.Coherent

/-!
# The lifecycle history

What a step records in the history of a module: it keeps the history, adds one legal move, or starts
an incarnation, after a last event of the incarnation it replaces. The two invariants of the history
are derived from this case analysis: which of the recorded moves are in the table, and that the
events of each incarnation are a chain that ends in the state of the module.
-/

namespace TransceiverRegistry

open Lib

/-- The event with which a module is registered (source `Registry::register_module`,
`registered`). -/
def registeredEvent (authority : AuthorityToken) (generation : Generation) (sequence : Sequence)
    (now : WallNs) (incarnation : IncarnationId) : LifecycleEvent :=
  lifecycleEvent authority generation sequence now incarnation .discovered .registered
    (text "module identity registered")

/-- The first two events of an incarnation (source `Registry::register_module`). -/
def openingEvents (authority : AuthorityToken) (generation : Generation) (sequence : Sequence)
    (now : WallNs) (incarnation : IncarnationId) (reason : Bytes) : List LifecycleEvent :=
  [lifecycleEvent authority generation sequence now incarnation .discovered .discovered reason,
    registeredEvent authority generation sequence now incarnation]

/-- The last event of the incarnation that is replaced (source `Registry::register_module`,
`replaced`). -/
def closingEvents (authority : AuthorityToken) (generation : Generation) (sequence : Sequence)
    (now : WallNs) (record : ModuleRecord) : List LifecycleEvent :=
  if record.state ≠ .replaced ∧ record.state ≠ .retired then
    [lifecycleEvent authority generation sequence now record.incarnation record.state .replaced
      (text "a new physical module incarnation was registered for this module key")]
  else []

/-- A history as it is or without its oldest events (source the loops that erase `begin()`). -/
def Retained (config : RegistryConfig) (whole kept : List LifecycleEvent) : Prop :=
  kept = whole ∨ kept = trimLifecycle config whole

/-- A record stands where an event left it (source the blocks that set `record.state`). -/
structure StandsAfter (record : ModuleRecord) (event : LifecycleEvent) : Prop where
  incarnation : record.incarnation = event.incarnation
  state : record.state = event.to_
  generation : record.stateGeneration = event.generation
  sequence : record.stateSequence = event.sequence

/-- What a step records about the module `uid`, whose record is `record'` after it. -/
inductive Recorded (config : RegistryConfig) (s : State) (operation : Operation) (uid : ModuleUid)
    (record' : ModuleRecord) : Prop where
  /-- The module stands where it stood. -/
  | kept {record} (found : s.modules[uid]? = some record)
      (incarnation : record'.incarnation = record.incarnation) (state : record'.state = record.state)
      (generation : record'.stateGeneration = record.stateGeneration)
      (sequence : record'.stateSequence = record.stateSequence)
      (lifecycle : Retained config record.lifecycle record'.lifecycle)
  /-- The module makes a legal move. -/
  | moved {record event} (found : s.modules[uid]? = some record)
      (own : event.incarnation = record.incarnation) (start : event.from_ = record.state)
      (legal : lifecycleTransitionAllowed record.state event.to_ = true)
      (stands : StandsAfter record' event)
      (lifecycle : record'.lifecycle = trimLifecycle config (record.lifecycle ++ [event]))
  /-- A key is seen for the first time (source `Registry::register_module`, the first branch). -/
  | appeared {authority generation sequence now}
      (stands : StandsAfter record' (registeredEvent authority generation sequence now 1))
      (lifecycle : record'.lifecycle = trimLifecycle config (openingEvents authority generation
        sequence now 1 (text "module key observed for the first time")))
  /-- An incarnation is replaced (source `Registry::register_module`, the replacement branch). -/
  | renewed {registration caller authority generation sequence now record}
      (call : operation = .registerModule registration caller)
      (intent : registration.intent = .newIncarnation)
      (named : s.moduleUidByKey[registration.key.str]? = some uid)
      (found : s.modules[uid]? = some record) (room : record.incarnation ≠ 0xFFFFFFFF)
      (stands : StandsAfter record'
        (registeredEvent authority generation sequence now (record.incarnation + 1)))
      (lifecycle : record'.lifecycle = trimLifecycle config (record.lifecycle ++
        closingEvents authority generation sequence now record ++
        openingEvents authority generation sequence now (record.incarnation + 1)
          (text "new module incarnation discovered")))

variable {config : RegistryConfig} {clock : Clock} {s s' : State} {generation : Generation}
  {sequence : Sequence} {authority : AuthorityToken} {now : WallNs}

/-- A record that is not written is kept. -/
lemma Recorded.refl {operation : Operation} {uid : ModuleUid} {record : ModuleRecord}
    (found : s.modules[uid]? = some record) : Recorded config s operation uid record :=
  .kept found rfl rfl rfl rfl (.inl rfl)

/-- What a step records when it writes one module. -/
lemma recorded_of_insert {operation : Operation} {uid : ModuleUid} {record : ModuleRecord}
    (written : s'.modules = s.modules.insert uid record)
    (recorded : Recorded config s operation uid record) :
    ∀ uid record', s'.modules[uid]? = some record' → Recorded config s operation uid record' := by
  intro uid' record' found
  rw [written] at found
  obtain ⟨rfl, rfl⟩ | ⟨_, found⟩ := getElem?_insert_iff.1 found
  · exact recorded
  · exact .refl found

/-- What a step records when it leaves the table. -/
lemma recorded_of_same {operation : Operation} (written : s'.modules = s.modules) :
    ∀ uid record', s'.modules[uid]? = some record' → Recorded config s operation uid record' := by
  intro uid record' found
  rw [written] at found
  exact .refl found

/-- A move along an event records the event (source the blocks that set `record.state`). -/
lemma ModuleRecord.move_recorded {operation : Operation} {uid : ModuleUid} {record : ModuleRecord}
    {event : LifecycleEvent} (found : s.modules[uid]? = some record)
    (own : event.incarnation = record.incarnation) (start : event.from_ = record.state)
    (legal : lifecycleTransitionAllowed record.state event.to_ = true) :
    Recorded config s operation uid (record.move config event) := by
  have stands : StandsAfter (record.move config event) event := ⟨own.symm, rfl, rfl, rfl⟩
  exact .moved found own start legal stands rfl

/-- Settling registers a discovered module (source `Registry::register_module`, the second
lookup). -/
lemma settleDiscovered_stands {located record : ModuleRecord}
    (discovered : located.state = .discovered)
    (settle : settleDiscovered authority generation sequence now located = .ok record) :
    StandsAfter record
        (registeredEvent authority generation sequence now located.incarnation) ∧
      record.lifecycle = located.lifecycle ++
        [registeredEvent authority generation sequence now located.incarnation] := by
  obtain ⟨_, rfl⟩ | ⟨other, _⟩ := settleDiscovered_inv settle
  · rw [discovered]
    exact ⟨⟨rfl, rfl, rfl, rfl⟩, rfl⟩
  · exact absurd discovered other

/-- What a registration records about its module (source `Registry::register_module`). -/
inductive Registered (config : RegistryConfig) (s : State) (registration : ModuleRegistration)
    (uid : ModuleUid) (record' : ModuleRecord) : Prop where
  /-- The key is seen for the first time. -/
  | appeared {authority : AuthorityToken} {generation : Generation} {sequence : Sequence}
      {now : WallNs} (absent : s.moduleUidByKey[registration.key.str]? = none)
      (stands : StandsAfter record' (registeredEvent authority generation sequence now 1))
      (lifecycle : record'.lifecycle = trimLifecycle config (openingEvents authority generation
        sequence now 1 (text "module key observed for the first time")))
  /-- The current incarnation is registered again. -/
  | current {record} (intent : registration.intent = .ensureCurrent)
      (found : s.modules[uid]? = some record)
      (incarnation : record'.incarnation = record.incarnation) (state : record'.state = record.state)
      (generation : record'.stateGeneration = record.stateGeneration)
      (sequence : record'.stateSequence = record.stateSequence)
      (lifecycle : record'.lifecycle = trimLifecycle config record.lifecycle)
  /-- A module that was only discovered is registered. -/
  | settled {record} {authority : AuthorityToken} {generation : Generation} {sequence : Sequence}
      {now : WallNs} (intent : registration.intent = .ensureCurrent)
      (found : s.modules[uid]? = some record) (discovered : record.state = .discovered)
      (stands : StandsAfter record'
        (registeredEvent authority generation sequence now record.incarnation))
      (lifecycle : record'.lifecycle = trimLifecycle config (record.lifecycle ++
        [registeredEvent authority generation sequence now record.incarnation]))
  /-- An incarnation is replaced. -/
  | renewed {record} {authority : AuthorityToken} {generation : Generation} {sequence : Sequence}
      {now : WallNs} (intent : registration.intent = .newIncarnation)
      (named : s.moduleUidByKey[registration.key.str]? = some uid)
      (found : s.modules[uid]? = some record) (room : record.incarnation ≠ 0xFFFFFFFF)
      (stands : StandsAfter record'
        (registeredEvent authority generation sequence now (record.incarnation + 1)))
      (lifecycle : record'.lifecycle = trimLifecycle config (record.lifecycle ++
        closingEvents authority generation sequence now record ++
        openingEvents authority generation sequence now (record.incarnation + 1)
          (text "new module incarnation discovered")))

/-- A registration writes one module (source `Registry::register_module`). -/
lemma registerModule_registered [StdSort] {registration : ModuleRegistration}
    {handle : ModuleHandle}
    (run : registerModuleBody config clock registration authority s generation sequence =
      .ok (s', handle)) :
    ∃ uid record', s'.modules = s.modules.insert uid record' ∧
      Registered config s registration uid record' := by
  obtain ⟨_, t, uid, located, record, claims, locate, settle, _, rfl⟩ := registerModuleBody_inv run
  refine ⟨uid, { record with claims, lifecycle := trimLifecycle config record.lifecycle }, ?_⟩
  obtain ⟨absent, _, rfl, rfl, rfl⟩ |
    ⟨old, named, found, ⟨intent, _, _, rfl, rfl⟩ | ⟨intent, replaced⟩⟩ := locateModule_inv locate
  · obtain ⟨stands, lifecycle⟩ := settleDiscovered_stands rfl settle
    refine ⟨insert_insert, .appeared absent ⟨stands.1, stands.2, stands.3, stands.4⟩ ?_⟩
    rw [lifecycle]
    rfl
  · refine ⟨rfl, ?_⟩
    by_cases discovered : located.state = .discovered
    · obtain ⟨stands, lifecycle⟩ := settleDiscovered_stands discovered settle
      rw [lifecycle]
      exact .settled intent found discovered ⟨stands.1, stands.2, stands.3, stands.4⟩ rfl
    · obtain ⟨settled, _⟩ | ⟨_, rfl⟩ := settleDiscovered_inv settle
      · exact absurd settled discovered
      · exact .current intent found rfl rfl rfl rfl rfl
  · obtain ⟨room, rfl, rfl⟩ := replaceIncarnation_inv replaced
    obtain ⟨stands, lifecycle⟩ := settleDiscovered_stands rfl settle
    refine ⟨rfl, .renewed intent named found room
      ⟨stands.1, stands.2, stands.3, stands.4⟩ ?_⟩
    rw [lifecycle]
    simp only [closingEvents, openingEvents]
    split
    · simp
    · simp

/-- What a registration records (source `Registry::register_module`). -/
lemma Registered.recorded {registration : ModuleRegistration} {uid : ModuleUid}
    {record' : ModuleRecord} (h : Registered config s registration uid record') :
    Recorded config s (.registerModule registration authority) uid record' := by
  cases h with
  | appeared _ stands lifecycle => exact .appeared stands lifecycle
  | current _ found incarnation state generation sequence lifecycle =>
    exact .kept found incarnation state generation sequence (.inr lifecycle)
  | settled _ found discovered stands lifecycle =>
    exact .moved found rfl discovered.symm (discovered ▸ discovered_registrable) stands lifecycle
  | renewed intent named found room stands lifecycle =>
    exact .renewed rfl intent named found room stands lifecycle

/-- What the body of an operation records. -/
lemma body_recorded [StdSort] {operation : Operation}
    (run : operation.body config clock s generation sequence = .ok s') :
    ∀ uid record', s'.modules[uid]? = some record' → Recorded config s operation uid record' := by
  cases operation <;> rw [Operation.body, fst_map_eq_ok] at run <;> obtain ⟨result, run⟩ := run
  case registerSource =>
    obtain ⟨_, _, _, _, _, _, rfl⟩ | ⟨_, _, _, rfl⟩ := registerSourceBody_inv run <;>
      exact recorded_of_same rfl
  case registerModule =>
    obtain ⟨uid, record', written, registered⟩ := registerModule_registered run
    exact recorded_of_insert written registered.recorded
  case updateIdentity =>
    obtain ⟨_, record, _, found, _, rfl⟩ := updateIdentityBody_inv run
    exact recorded_of_insert rfl (.kept found rfl rfl rfl rfl (.inl rfl))
  case publishCapability =>
    obtain ⟨_, record, _, found, _, rfl⟩ := publishCapabilityBody_inv run
    exact recorded_of_insert rfl (.kept found rfl rfl rfl rfl (.inl rfl))
  case publishPortCapability =>
    obtain ⟨_, _, _, _, _, _, _, rfl⟩ := publishPortCapabilityBody_inv run
    exact recorded_of_same rfl
  case attach =>
    obtain ⟨_, record, found, _, ⟨_, _, rfl⟩ | ⟨_, _, allowed, rfl, rfl⟩⟩ := attachBody_inv run
    · exact recorded_of_same rfl
    · refine recorded_of_insert rfl ?_
      split
      · rename_i elsewhere
        exact record.move_recorded found rfl rfl (allowed.resolve_left elsewhere)
      · exact .refl found
  case detach authority slot _ =>
    obtain ⟨_, attachment, _, _, rfl⟩ := detachBody_inv run
    cases found : s.modules[attachment.uid]? with
    | none => exact recorded_of_same rfl
    | some record =>
      by_cases placed : record.incarnation = attachment.incarnation ∧
          lifecycleStateImpliesAttachment record.state = true
      · refine recorded_of_insert (by simp only [if_pos placed]; rfl) ?_
        exact record.move_recorded found rfl rfl (removable_of_attachment placed.2)
      · exact recorded_of_same (by simp [placed])
  case ingestHealth =>
    obtain ⟨_, record, _, _, found, _, _, _, _, _, _, rfl⟩ := ingestHealthBody_inv run
    exact recorded_of_insert rfl (.kept found rfl rfl rfl rfl (.inl rfl))
  case publishThreshold =>
    obtain ⟨_, _, rfl⟩ := publishThresholdBody_inv run
    exact recorded_of_same rfl
  case publishRule =>
    obtain ⟨_, _, rfl⟩ := publishRuleBody_inv run
    exact recorded_of_same rfl
  case retireRule =>
    obtain ⟨_, _, _, _, rfl⟩ := retireRuleBody_inv run
    exact recorded_of_same rfl
  case transition =>
    obtain ⟨_, record, found, _, allowed, rfl, rfl⟩ := transitionBody_inv run
    exact recorded_of_insert rfl (record.move_recorded found rfl rfl allowed)
  case reconcileLifecycle =>
    obtain ⟨_, record, target, found, _, _, ⟨_, rfl⟩ | ⟨_, allowed, rfl, rfl⟩⟩ :=
      reconcileLifecycleBody_inv run
    · exact recorded_of_same rfl
    · exact recorded_of_insert rfl (record.move_recorded found rfl rfl allowed)

/-- Taking a sequence number changes nothing a record depends on. -/
lemma Recorded.ofNextSequence {operation : Operation} {uid : ModuleUid} {record' : ModuleRecord}
    (h : Recorded config (nextSequence s).2 operation uid record') :
    Recorded config s operation uid record' := by
  cases h with
  | kept found incarnation state generation sequence lifecycle =>
    exact .kept found incarnation state generation sequence lifecycle
  | moved found own start legal stands lifecycle =>
    exact .moved found own start legal stands lifecycle
  | appeared stands lifecycle => exact .appeared stands lifecycle
  | renewed call intent named found room stands lifecycle =>
    exact .renewed call intent named found room stands lifecycle

/-- What a step records (source `RegistryImpl::mutate`). -/
theorem step_recorded [StdSort] {call : Call} (taken : step config s call = some s') :
    ∀ uid record', s'.modules[uid]? = some record' →
      Recorded config s call.operation uid record' := by
  obtain ⟨_, next, run, rfl⟩ := step_eq_some taken
  exact fun uid record' found => (body_recorded run uid record' found).ofNextSequence

end TransceiverRegistry

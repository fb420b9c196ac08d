import TransceiverRegistry.Registry.History

/-!
# Two invariants of the lifecycle history

Which recorded moves are in the transition table, and how the events of an incarnation follow one
another. Both are derived from what a step records.
-/

namespace TransceiverRegistry

open Lib

/-- An event is no move or a move in the table (source `lifecycle_transition_allowed`). -/
def LifecycleEvent.Legal (event : LifecycleEvent) : Prop :=
  event.from_ ≠ event.to_ → lifecycleTransitionAllowed event.from_ event.to_ = true

instance (event : LifecycleEvent) : Decidable event.Legal :=
  inferInstanceAs (Decidable (_ → _))

/-- Every stored event is legal. -/
def State.HistoryLegal (s : State) : Prop :=
  ∀ (uid : ModuleUid) (record : ModuleRecord), s.modules[uid]? = some record →
    ∀ event ∈ record.lifecycle, event.Legal

/-- A registration replaces only modules that the table lets become replaced, or the history is too
short to hold the event (source `Registry::register_module`, `replaced`). -/
def replacesFromTable (config : RegistryConfig) (s : State) (call : Call) : Bool :=
  match call.operation with
  | .registerModule registration _ =>
    match s.moduleUidByKey[registration.key.str]? with
    | none => true
    | some uid => match s.modules[uid]? with
      | none => true
      | some record => registration.intent ≠ .newIncarnation ||
        record.state = .replaced || record.state = .retired ||
        lifecycleTransitionAllowed record.state .replaced || config.maxLifecycleHistory < 3
  | _ => true

variable {config : RegistryConfig} {s s' : State} {authority : AuthorityToken}
  {generation : Generation} {sequence : Sequence} {now : WallNs}

/-- A trimmed history holds the newest events (source the loops that erase `begin()`). -/
lemma trimLifecycle_suffix (config : RegistryConfig) (events : List LifecycleEvent) :
    trimLifecycle config events <:+ events := List.drop_suffix _ _

/-- The events that are retained were recorded. -/
lemma Retained.suffix {whole kept : List LifecycleEvent} (h : Retained config whole kept) :
    kept <:+ whole := by
  cases h with
  | inl same => exact same ▸ List.suffix_refl _
  | inr trimmed => exact trimmed ▸ trimLifecycle_suffix config whole

/-- A history of at most two events keeps the last two (source the loops that erase `begin()`). -/
lemma mem_trimLifecycle_of_short {events : List LifecycleEvent} {a b event : LifecycleEvent}
    (short : config.maxLifecycleHistory < 3)
    (kept : event ∈ trimLifecycle config (events ++ [a, b])) : event = a ∨ event = b := by
  have few : config.maxLifecycleHistory.toNat < 3 := UInt32.lt_iff_toNat_lt.1 short
  have long : events.length ≤ (events ++ [a, b]).length - config.maxLifecycleHistory.toNat := by
    rw [List.length_append, List.length_cons, List.length_singleton]
    omega
  unfold trimLifecycle at kept
  rw [List.drop_append, List.drop_eq_nil_of_le long, List.nil_append] at kept
  simpa using List.mem_of_mem_drop kept

/-- A history of at least three events keeps the last three (source the loops that erase
`begin()`). -/
lemma mem_trimLifecycle_of_long {events : List LifecycleEvent} {event a b : LifecycleEvent}
    (long : ¬ config.maxLifecycleHistory < 3) :
    event ∈ trimLifecycle config (events ++ [event] ++ [a, b]) := by
  have many : 3 ≤ config.maxLifecycleHistory.toNat :=
    UInt32.le_iff_toNat_le.1 (UInt32.not_lt.1 long)
  unfold trimLifecycle
  rw [List.append_assoc, List.drop_append_of_le_length]
  · simp
  · simp only [List.length_append, List.length_cons, List.length_nil]
    omega

/-- The first two events of an incarnation are legal (source `Registry::register_module`). -/
lemma openingEvents_legal {incarnation : IncarnationId} {reason : Bytes} :
    ∀ event ∈ openingEvents authority generation sequence now incarnation reason, event.Legal := by
  intro event member
  rw [openingEvents, List.mem_pair] at member
  obtain rfl | rfl := member
  · exact fun moves => absurd rfl moves
  · exact fun _ => discovered_registrable

/-- A step that replaces only what the table lets become replaced records legal events. -/
lemma historyLegal_step [StdSort] {call : Call} (h : s.HistoryLegal)
    (table : replacesFromTable config s call = true) (taken : step config s call = some s') :
    s'.HistoryLegal := by
  intro uid record' found' event member
  cases step_recorded taken uid record' found' with
  | kept found _ _ _ _ lifecycle => exact h _ _ found event (lifecycle.suffix.subset member)
  | @moved record moved found _ start legal _ lifecycle =>
    rw [lifecycle] at member
    have recorded := (trimLifecycle_suffix config _).subset member
    rw [List.mem_append, List.mem_singleton] at recorded
    obtain old | rfl := recorded
    · exact h _ _ found event old
    · exact fun _ => start ▸ legal
  | appeared _ lifecycle =>
    rw [lifecycle] at member
    exact openingEvents_legal event ((trimLifecycle_suffix config _).subset member)
  | @renewed registration caller authority generation sequence now record call intent named found
      _ _ lifecycle =>
    rw [lifecycle] at member
    simp only [replacesFromTable, call, named, found, intent, ne_eq, not_true_eq_false,
      decide_false, Bool.false_or, Bool.or_eq_true, decide_eq_true_eq] at table
    by_cases short : config.maxLifecycleHistory < 3
    · -- only the events of the new incarnation are left
      refine openingEvents_legal event (List.mem_pair.2 (mem_trimLifecycle_of_short short member))
    · have recorded := (trimLifecycle_suffix config _).subset member
      rw [List.mem_append, List.mem_append] at recorded
      obtain (old | closing) | opening := recorded
      · exact h _ _ found event old
      · unfold closingEvents at closing
        split at closing
        · rename_i open'
          rw [List.mem_singleton.1 closing]
          obtain ((replaced | retired) | allowed) | few := table
          · exact absurd replaced open'.1
          · exact absurd retired open'.2
          · exact fun _ => allowed
          · exact absurd few short
        · cases closing
      · exact openingEvents_legal event opening

/-- A step that replaces what the table does not let become replaced records an illegal event
(source `Registry::register_module`, `replaced`). -/
lemma not_historyLegal_of_replaces [StdSort] {call : Call}
    (off : replacesFromTable config s call = false) (taken : step config s call = some s') :
    ¬ s'.HistoryLegal := by
  obtain ⟨_, next, run, rfl⟩ := step_eq_some taken
  unfold replacesFromTable at off
  split at off
  · rename_i registration caller operation
    split at off
    · cases off
    rename_i uid named
    split at off
    · cases off
    rename_i record found
    simp only [ne_eq, Bool.or_eq_false_iff, decide_eq_false_iff_not, not_not] at off
    obtain ⟨⟨⟨⟨intent, unreplaced⟩, unretired⟩, illegal⟩, long⟩ := off
    rw [operation, Operation.body, fst_map_eq_ok] at run
    obtain ⟨handle, run⟩ := run
    obtain ⟨uid', record', written, registered⟩ := registerModule_registered run
    have stored : (next.publish (s.generation + 1)).modules[uid']? = some record' := by
      rw [State.publish, written]
      exact Std.ExtTreeMap.getElem?_insert_self
    cases registered with
    | appeared absent => cases named.symm.trans absent
    | current ensure | settled ensure => cases ensure.symm.trans intent
    | renewed _ named' found' _ _ lifecycle =>
      obtain rfl : uid = uid' := Option.some.inj (named.symm.trans named')
      obtain rfl := Option.some.inj (found.symm.trans found')
      intro legal
      rw [closingEvents, if_pos ⟨unreplaced, unretired⟩] at lifecycle
      have allowed := legal uid record' stored _
        (lifecycle ▸ mem_trimLifecycle_of_long long) unreplaced
      rw [lifecycleEvent, illegal] at allowed
      cases allowed
  · cases off

/-- Along runs that replace only what the table lets become replaced, every stored event is legal,
and the next step keeps that exactly when it replaces only such a module (source
`Registry::register_module`, `lifecycle_transition_allowed`). A snapshot can only be loaded before
the first step, so the first state may be any state whose history is legal. -/
theorem recorded_moves_in_table [StdSort] {s₀ : State} (start : s₀.HistoryLegal)
    (reached : Run (step config) (fun s call => replacesFromTable config s call = true) s₀ s) :
    s.HistoryLegal ∧ ∀ call s', step config s call = some s' →
      (s'.HistoryLegal ↔ replacesFromTable config s call = true) := by
  have legal := reached.invariant State.HistoryLegal start
    fun _ _ _ h table taken => historyLegal_step h table taken
  refine ⟨legal, fun call s' taken => ⟨fun legal' => ?_, fun table =>
    historyLegal_step legal table taken⟩⟩
  by_contra off
  exact not_historyLegal_of_replaces (Bool.not_eq_true _ ▸ off) taken legal'

/-- Such a run replaces a module that is in a slot. -/
theorem recorded_moves_in_table_replaced : ∃ s : State, (s.HistoryLegal ∧
    ∀ call s', step {} s call = some s' →
      (s'.HistoryLegal ↔ replacesFromTable {} s call = true)) ∧
    s.modules[(1 : UInt64)]?.any (·.incarnation = 2) = true := by
  have replaced : (runGuarded (step {}) (replacesFromTable {}) [registerHost,
      registerBay bayA .ensureCurrent, attachFirst 1 bayA slotA,
      registerBay bayA .newIncarnation] State.initial).any (fun s =>
        s.modules[(1 : UInt64)]?.any (·.incarnation = 2)) = true := by decide +kernel
  obtain ⟨s, reached, second⟩ := Run.exists_ofGuarded replaced
  exact ⟨s, recorded_moves_in_table (fun _ _ found => by simp [State.initial] at found) reached,
    second⟩

/-- A module that was taken out of its slot is recorded as replaced, which the table does not
permit (source `Registry::register_module`, `replaced`). -/
theorem removed_module_recorded_replaced :
    ¬ ∀ (config : RegistryConfig) (s : State), Run (step config) Unguarded State.initial s →
      s.HistoryLegal := by
  intro h
  have removed : (runActions (step {}) [registerHost, registerBay bayA .ensureCurrent,
      attachFirst 1 bayA slotA, Operation.now (.detach host slotA .autoRetry),
      registerBay bayA .newIncarnation] State.initial).any (fun s =>
        s.modules[(1 : UInt64)]?.any fun record =>
          record.lifecycle.any fun event => ¬ event.Legal) = true := by decide +kernel
  obtain ⟨s, reached, off⟩ := Run.exists_ofActions removed
  obtain ⟨record, found, off⟩ := (Option.any_eq_true _ _).1 off
  obtain ⟨event, member, illegal⟩ := List.any_eq_true.1 off
  exact (of_decide_eq_true illegal) (h {} s reached 1 record found event member)

/-- An event goes on where the one before it led (source `LifecycleEvent`). -/
def LifecycleEvent.GoesOn (event event' : LifecycleEvent) : Prop := event.to_ = event'.from_

/-- The events of each incarnation are a chain, and the newest event led to where the module
stands. -/
structure ModuleRecord.Chronicled (record : ModuleRecord) : Prop where
  threaded : Threaded LifecycleEvent.incarnation LifecycleEvent.GoesOn record.lifecycle
  bounded : ∀ event ∈ record.lifecycle, event.incarnation ≤ record.incarnation
  newest : ∃ event, record.lifecycle.getLast? = some event ∧ StandsAfter record event

/-- Every stored history is a chronicle. -/
def State.HistoryChained (s : State) : Prop :=
  ∀ (uid : ModuleUid) (record : ModuleRecord), s.modules[uid]? = some record → record.Chronicled

/-- Trimming keeps the newest event (source the loops that erase `begin()`). -/
lemma Retained.getLast? {whole kept : List LifecycleEvent}
    (room : 1 ≤ config.maxLifecycleHistory) (h : Retained config whole kept) :
    kept.getLast? = whole.getLast? := by
  cases h with
  | inl same => rw [same]
  | inr trimmed =>
    rw [trimmed]
    exact getLast?_newest (UInt32.le_iff_toNat_le.1 room)

/-- A chronicle stays one when its oldest events are dropped. -/
lemma ModuleRecord.Chronicled.ofRetained {record : ModuleRecord} {whole : List LifecycleEvent}
    {event : LifecycleEvent} (room : 1 ≤ config.maxLifecycleHistory)
    (retained : Retained config whole record.lifecycle)
    (threaded : Threaded LifecycleEvent.incarnation LifecycleEvent.GoesOn whole)
    (bounded : ∀ event ∈ whole, event.incarnation ≤ record.incarnation)
    (newest : whole.getLast? = some event) (stands : StandsAfter record event) :
    record.Chronicled where
  threaded := threaded.suffix retained.suffix
  bounded event' member := bounded event' (retained.suffix.subset member)
  newest := ⟨event, by rw [retained.getLast? room, newest], stands⟩

/-- The events of an incarnation start a chain after those of the incarnations before it
(source `Registry::register_module`). -/
lemma openingEvents_threaded {events : List LifecycleEvent} {incarnation : IncarnationId}
    {reason : Bytes}
    (threaded : Threaded LifecycleEvent.incarnation LifecycleEvent.GoesOn events)
    (earlier : ∀ event ∈ events, event.incarnation < incarnation) :
    Threaded LifecycleEvent.incarnation LifecycleEvent.GoesOn
        (events ++ openingEvents authority generation sequence now incarnation reason) ∧
      (∀ event ∈ events ++ openingEvents authority generation sequence now incarnation reason,
        event.incarnation ≤ incarnation) ∧
      (events ++ openingEvents authority generation sequence now incarnation reason).getLast? =
        some (registeredEvent authority generation sequence now incarnation) := by
  have split : events ++ openingEvents authority generation sequence now incarnation reason =
      events ++ [lifecycleEvent authority generation sequence now incarnation .discovered
        .discovered reason] ++ [registeredEvent authority generation sequence now incarnation] := by
    rw [List.append_assoc]
    rfl
  rw [split]
  refine ⟨?_, ?_, List.getLast?_concat⟩
  · have first := threaded.begin (b := lifecycleEvent authority generation sequence now incarnation
      .discovered .discovered reason) fun event member same =>
        absurd same (UInt32.ne_of_lt (earlier event member))
    exact first.extend List.getLast?_concat rfl rfl
  · intro event member
    simp only [List.mem_append, List.mem_singleton] at member
    obtain (old | rfl) | rfl := member
    · exact UInt32.le_of_lt (earlier event old)
    · exact UInt32.le_refl _
    · exact UInt32.le_refl _

/-- Closing an incarnation goes on with its chain (source `Registry::register_module`,
`replaced`). -/
lemma closingEvents_threaded (authority : AuthorityToken) (generation : Generation)
    (sequence : Sequence) (now : WallNs) {record : ModuleRecord} (h : record.Chronicled) :
    Threaded LifecycleEvent.incarnation LifecycleEvent.GoesOn
        (record.lifecycle ++ closingEvents authority generation sequence now record) ∧
      ∀ event ∈ record.lifecycle ++ closingEvents authority generation sequence now record,
        event.incarnation ≤ record.incarnation := by
  obtain ⟨event, newest, stands⟩ := h.newest
  unfold closingEvents
  split
  · refine ⟨h.threaded.extend newest stands.incarnation stands.state.symm, fun event' member => ?_⟩
    rw [List.mem_append, List.mem_singleton] at member
    obtain old | rfl := member
    · exact h.bounded event' old
    · exact UInt32.le_refl _
  · rw [List.append_nil]
    exact ⟨h.threaded, h.bounded⟩

/-- A step keeps every history a chronicle. -/
lemma historyChained_step [StdSort] {call : Call} (room : 1 ≤ config.maxLifecycleHistory)
    (h : s.HistoryChained) (taken : step config s call = some s') : s'.HistoryChained := by
  intro uid record' found'
  cases step_recorded taken uid record' found' with
  | kept found incarnation state generation sequence lifecycle =>
    have old := h _ _ found
    obtain ⟨event, newest, stands⟩ := old.newest
    refine .ofRetained room lifecycle old.threaded (incarnation ▸ old.bounded) newest ?_
    exact ⟨incarnation.trans stands.1, state.trans stands.2, generation.trans stands.3,
      sequence.trans stands.4⟩
  | @moved record moved found own start legal stands lifecycle =>
    have old := h _ _ found
    obtain ⟨event, newest, stood⟩ := old.newest
    have follows : event.GoesOn moved := stood.state.symm.trans start.symm
    refine .ofRetained room (.inr lifecycle)
      (old.threaded.extend newest (own.trans stood.incarnation) follows) ?_ List.getLast?_concat stands
    intro event' member
    rw [stands.incarnation, own]
    rw [List.mem_append, List.mem_singleton] at member
    obtain earlier | rfl := member
    · exact old.bounded event' earlier
    · exact own ▸ UInt32.le_refl _
  | appeared stands lifecycle =>
    have empty : Threaded LifecycleEvent.incarnation LifecycleEvent.GoesOn [] := .nil
    obtain ⟨threaded, bounded, newest⟩ := openingEvents_threaded empty (by simp)
    refine .ofRetained room (.inr lifecycle) threaded ?_ newest stands
    rw [stands.incarnation]
    exact bounded
  | @renewed registration caller authority generation sequence now record call intent named found
      incarnations stands lifecycle =>
    have old := h _ _ found
    have grows : record.incarnation < record.incarnation + 1 := by
      rw [UInt32.lt_iff_toNat_lt, UInt32.toNat_add]
      have below := record.incarnation.toNat_lt
      have other : record.incarnation.toNat ≠ 0xFFFFFFFF := fun same =>
        incarnations (UInt32.toNat_inj.1 same)
      simp only [UInt32.toNat_one]
      omega
    obtain ⟨closed, earlier⟩ := closingEvents_threaded authority generation sequence now old
    obtain ⟨threaded, bounded, newest⟩ := openingEvents_threaded closed fun event member =>
      UInt32.lt_of_le_of_lt (earlier event member) grows
    refine .ofRetained room (.inr lifecycle) threaded ?_ newest stands
    rw [stands.incarnation]
    exact bounded

/-- Along every run the stored events of an incarnation are a chain, and the last one of the current
incarnation led to where the module stands (source `Registry::lifecycle_history`). -/
theorem history_is_chain [StdSort] (room : 1 ≤ config.maxLifecycleHistory)
    (reached : Run (step config) Unguarded State.initial s) (uid : ModuleUid)
    (record : ModuleRecord) (found : s.modules[uid]? = some record) :
    (∀ incarnation, (record.lifecycle.filter fun event => event.incarnation = incarnation).IsChain
      fun event event' => event.to_ = event'.from_) ∧
    ∃ event, (record.lifecycle.filter fun event =>
        event.incarnation = record.incarnation).getLast? = some event ∧
      event.to_ = record.state ∧ event.generation = record.stateGeneration ∧
      event.sequence = record.stateSequence := by
  have chained := reached.invariant State.HistoryChained
    (fun _ _ found => by simp [State.initial] at found)
    fun _ _ _ h _ taken => historyChained_step room h taken
  obtain ⟨threaded, _, event, newest, stands⟩ := chained uid record found
  refine ⟨threaded, event, ?_, stands.state.symm, stands.generation.symm, stands.sequence.symm⟩
  rw [stands.incarnation]
  exact getLast?_thread newest

/-- A module that was attached, detached and replaced. -/
theorem history_is_chain_replaced : ∃ (s : State) (record : ModuleRecord),
    s.modules[(1 : UInt64)]? = some record ∧ record.lifecycle.length = 7 ∧
    (∀ incarnation, (record.lifecycle.filter fun event => event.incarnation = incarnation).IsChain
      fun event event' => event.to_ = event'.from_) ∧
    ∃ event, (record.lifecycle.filter fun event =>
        event.incarnation = record.incarnation).getLast? = some event ∧
      event.to_ = record.state ∧ event.generation = record.stateGeneration ∧
      event.sequence = record.stateSequence := by
  have replaced : (runActions (step {}) [registerHost, registerBay bayA .ensureCurrent,
      attachFirst 1 bayA slotA, Operation.now (.detach host slotA .autoRetry),
      registerBay bayA .newIncarnation] State.initial).any (fun s =>
        s.modules[(1 : UInt64)]?.any (·.lifecycle.length = 7)) = true := by decide +kernel
  obtain ⟨s, reached, some_record⟩ := Run.exists_ofActions replaced
  obtain ⟨record, found, seven⟩ := (Option.any_eq_true _ _).1 some_record
  exact ⟨s, record, found, of_decide_eq_true seven,
    history_is_chain (by decide) reached 1 record found⟩

end TransceiverRegistry

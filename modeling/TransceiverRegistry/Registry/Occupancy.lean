import TransceiverRegistry.Registry.Placement

/-!
# Who occupies a slot

The slot map and the lifecycle are two tables that every operation has to move together. A module
holds at most one slot, a module in an attached state holds a slot, and a slot is held by a current
incarnation: each holds along the runs that avoid one branch of the source, and fails on a run that
takes it.
-/

namespace TransceiverRegistry

open Lib

/-- No two slots have live attachments of one module (source `Registry::attachment_of_module`). -/
def State.OneSlot (s : State) : Prop :=
  ∀ (slot slot' : Bytes) (a a' : AttachmentRecord), s.attachments[slot]? = some a →
    s.attachments[slot']? = some a' → a.live = true → a'.live = true → a.uid = a'.uid →
    slot = slot'

/-- Every module in an attached state has a live attachment of its incarnation
(source `lifecycle_state_implies_attachment`). -/
def State.AttachedHeld (s : State) : Prop :=
  ∀ (uid : ModuleUid) (record : ModuleRecord), s.modules[uid]? = some record →
    lifecycleStateImpliesAttachment record.state = true →
    ∃ (slot : Bytes) (a : AttachmentRecord), s.attachments[slot]? = some a ∧ a.live = true ∧
      a.uid = uid ∧ a.incarnation = record.incarnation

/-- Every live attachment names an existing module and its current incarnation
(source `Registry::attachment_of_slot`). -/
def State.SlotsCurrent (s : State) : Prop :=
  ∀ (slot : Bytes) (a : AttachmentRecord), s.attachments[slot]? = some a → a.live = true →
    ∃ record, s.modules[a.uid]? = some record ∧ record.incarnation = a.incarnation

/-- A slot is held only by modules that meet a condition (source `State::attachments`). -/
def State.allLive (s : State) (f : Bytes → AttachmentRecord → Bool) : Bool :=
  s.attachments.toList.all fun entry => !entry.2.live || f entry.1 entry.2

/-- The module is not in another slot when it is attached. -/
def attachesSole (s : State) (call : Call) : Bool :=
  match call.operation with
  | .attach _ module slot _ _ => s.allLive fun k a => a.uid ≠ module.uid || k = slot.str
  | _ => true

/-- The module displaced by an attach is not placed, or holds another slot. -/
def attachesSpare (s : State) (call : Call) : Bool :=
  match call.operation with
  | .attach _ module slot _ _ =>
    match s.attachments[slot.str]? with
    | none => true
    | some a => !a.live || a.uid = module.uid ||
      match s.modules[a.uid]? with
      | none => true
      | some record => record.incarnation ≠ a.incarnation ||
        !lifecycleStateImpliesAttachment record.state ||
        s.attachments.toList.any fun entry =>
          entry.1 ≠ slot.str && entry.2.holds a.uid a.incarnation
  | _ => true

/-- No operator moves a module (source `Registry::transition`). -/
def Call.automatic (call : Call) : Bool :=
  match call.operation with
  | .transition .. => false
  | _ => true

/-- A replacement of a module that is replaced or retired finds no slot of the module. -/
def replacesFreed (s : State) (call : Call) : Bool :=
  match call.operation with
  | .registerModule registration _ =>
    match s.moduleUidByKey[registration.key.str]? with
    | none => true
    | some uid => match s.modules[uid]? with
      | none => true
      | some record => registration.intent ≠ .newIncarnation ||
        (record.state ≠ .replaced && record.state ≠ .retired) ||
        s.allLive fun _ a => a.uid ≠ uid
  | _ => true

variable {config : RegistryConfig} {s s' : State}

/-- A condition on every live attachment holds of each of them. -/
lemma allLive_eq_true {f : Bytes → AttachmentRecord → Bool} (h : s.allLive f = true)
    {slot : Bytes} {a : AttachmentRecord} (taken : s.attachments[slot]? = some a)
    (live : a.live = true) : f slot a = true := by
  have entry : (slot, a) ∈ s.attachments.toList :=
    Std.ExtTreeMap.mem_toList_iff_getElem?_eq_some.2 taken
  have met := List.all_eq_true.1 h _ entry
  simpa [live] using met

/-- The placement gives no module two slots exactly when the slot map does not. -/
lemma oneSlot_iff : s.OneSlot ↔ s.placement.AtMostOne := by
  constructor
  · rintro h slot slot' ⟨uid, i⟩ ⟨uid', i'⟩ held held' rfl
    obtain ⟨a, taken, live, rfl, _⟩ := placement_holder_eq_some.1 held
    obtain ⟨a', taken', live', same, _⟩ := placement_holder_eq_some.1 held'
    exact h slot slot' a a' taken taken' live live' same.symm
  · intro h slot slot' a a' taken taken' live live' same
    exact h slot slot' _ _ (placement_holder_eq_some.2 ⟨a, taken, live, rfl, rfl⟩)
      (placement_holder_eq_some.2 ⟨a', taken', live', rfl, rfl⟩) same

/-- The placement holds the attached modules exactly when the slot map does. -/
lemma attachedHeld_iff :
    s.AttachedHeld ↔ s.placement.Held fun l => lifecycleStateImpliesAttachment l = true := by
  constructor
  · intro h uid i l known placed
    obtain ⟨record, found, rfl, rfl⟩ := placement_life_eq_some.1 known
    obtain ⟨slot, a, taken, live, same, current⟩ := h uid record found placed
    exact ⟨slot, placement_holder_eq_some.2 ⟨a, taken, live, same, current⟩⟩
  · intro h uid record found placed
    obtain ⟨slot, held⟩ :=
      h uid _ _ (placement_life_eq_some.2 ⟨record, found, rfl, rfl⟩) placed
    obtain ⟨a, taken, live, same, current⟩ := placement_holder_eq_some.1 held
    exact ⟨slot, a, taken, live, same, current⟩

/-- The placement is current exactly when the slot map is. -/
lemma slotsCurrent_iff : s.SlotsCurrent ↔ s.placement.Current := by
  constructor
  · intro h slot uid i held
    obtain ⟨a, taken, live, rfl, rfl⟩ := placement_holder_eq_some.1 held
    obtain ⟨record, found, current⟩ := h slot a taken live
    exact ⟨record.state, placement_life_eq_some.2 ⟨record, found, current, rfl⟩⟩
  · intro h slot a taken live
    obtain ⟨l, known⟩ := h slot _ _ (placement_holder_eq_some.2 ⟨a, taken, live, rfl, rfl⟩)
    obtain ⟨record, found, current, _⟩ := placement_life_eq_some.1 known
    exact ⟨record, found, current⟩

section Steps

variable [StdSort]

/-- A step that attaches a module which is in no other slot gives no module a second slot
(source `Registry::attach`). -/
lemma oneSlot_step {call : Call} (coherent : Coherent config s) (h : s.OneSlot)
    (sole : attachesSole s call = true) (taken : step config s call = some s') : s'.OneSlot := by
  rw [oneSlot_iff] at h ⊢
  have shifts := step_shifts coherent taken
  unfold attachesSole at sole
  generalize call.operation = operation at shifts sole
  generalize s'.placement = q at shifts
  cases shifts with
  | stay => exact h
  | discover | settle | revive | move | reconcile => exact h.become
  | renew => exact h.evict.become
  | vacate => exact h.vacate
  | remove => exact h.vacate.become
  | @occupy authority module slot portIndex policy state known other =>
    refine (h.occupy fun k x held same => ?_).become
    obtain ⟨uid, i⟩ := x
    obtain ⟨a, found, live, rfl, _⟩ := placement_holder_eq_some.1 held
    have same : a.uid = module.uid := same
    have met := allLive_eq_true sole found live
    simpa [same] using met

/-- An automatic step that displaces no attached module from its only slot keeps the attached
modules in their slots (source `Registry::attach`). -/
lemma attachedHeld_step {call : Call} (coherent : Coherent config s) (h : s.AttachedHeld)
    (automatic : call.automatic = true) (spare : attachesSpare s call = true)
    (taken : step config s call = some s') : s'.AttachedHeld := by
  rw [attachedHeld_iff] at h ⊢
  have shifts := step_shifts coherent taken
  unfold attachesSpare at spare
  unfold Call.automatic at automatic
  generalize call.operation = operation at shifts spare automatic
  generalize s'.placement = q at shifts
  cases shifts with
  | stay => exact h
  | discover | settle | revive => exact h.become fun placed => by cases placed
  | renew => exact h.renew (by decide)
  | vacate holds unplaced =>
    refine h.vacate fun u i l held known placed => ?_
    rw [holds] at held
    cases held
    rw [unplaced l known] at placed
    cases placed
  | remove holds known placed => exact h.remove holds (by decide)
  | move => cases automatic
  | reconcile known placed =>
    obtain ⟨slot, held⟩ := h _ _ _ known placed
    exact h.become fun _ => ⟨slot, held⟩
  | @occupy authority module slot portIndex policy state known other =>
    refine h.occupy fun u i l held distinct life placed => ?_
    obtain ⟨a, found, live, rfl, rfl⟩ := placement_holder_eq_some.1 held
    obtain ⟨record, stored, current, rfl⟩ := placement_life_eq_some.1 life
    simp only [found, stored, live, current, placed, Bool.not_true, Bool.false_or, ne_eq,
      not_true_eq_false, decide_false, distinct, List.any_eq_true, Bool.and_eq_true,
      decide_eq_true_eq] at spare
    obtain ⟨⟨k, b⟩, entry, elsewhere, holds⟩ := spare
    have there := Std.ExtTreeMap.mem_toList_iff_getElem?_eq_some.1 entry
    simp only [AttachmentRecord.holds, Bool.and_eq_true, decide_eq_true_eq] at holds
    exact ⟨k, elsewhere,
      placement_holder_eq_some.2 ⟨b, there, holds.1.1, holds.1.2, holds.2⟩⟩

/-- A step that revives no module which holds a slot keeps every slot with a current incarnation
(source `Registry::register_module`, the replacement branch). -/
lemma slotsCurrent_step {call : Call} (coherent : Coherent config s) (h : s.SlotsCurrent)
    (freed : replacesFreed s call = true) (taken : step config s call = some s') :
    s'.SlotsCurrent := by
  rw [slotsCurrent_iff] at h ⊢
  have shifts := step_shifts coherent taken
  unfold replacesFreed at freed
  generalize call.operation = operation at shifts freed
  generalize s'.placement = q at shifts
  -- a module that keeps its incarnation keeps its slots current
  have keep {uid : ModuleUid} {i : IncarnationId} {l : LifecycleState}
      (known : s.placement.life uid = some (i, l)) :
      ∀ slot i', s.placement.holder slot = some (uid, i') → i' = i := by
    intro slot i' held
    obtain ⟨l', known'⟩ := h slot uid i' held
    rw [known] at known'
    cases known'
    rfl
  cases shifts with
  | stay => exact h
  | discover unknown =>
    refine h.become fun slot i held => ?_
    obtain ⟨l, known⟩ := h slot _ i held
    rw [unknown] at known
    cases known
  | settle known | move known | reconcile known => exact h.become (keep known)
  | renew => exact h.renew
  | vacate => exact h.vacate
  | remove holds known =>
    exact h.vacate.become fun slot i held =>
      keep known slot i (Placement.vacate_holder_eq_some.1 held).2
  | occupy known =>
    refine (h.occupy known).become fun slot i held => ?_
    obtain ⟨_, e⟩ | ⟨_, held⟩ := Placement.occupy_holder_eq_some.1 held
    · cases e
      rfl
    · exact keep known slot i held
  | @revive registration authority uid i state i' intent named known fenced =>
    obtain ⟨record, stored, _, rfl⟩ := placement_life_eq_some.1 known
    refine h.become fun slot j held => ?_
    obtain ⟨a, found, live, rfl, _⟩ := placement_holder_eq_some.1 held
    have closed : (record.state ≠ .replaced && record.state ≠ .retired) = false := by
      obtain fenced | fenced := fenced <;> simp [fenced]
    simp only [named, stored, intent, closed, ne_eq, not_true_eq_false, decide_false,
      Bool.false_or] at freed
    have met := allLive_eq_true freed found live
    simp at met

end Steps

/-- Along runs that attach no module that is in another slot, a module holds at most one slot
(source `Registry::attach`). -/
theorem module_holds_one_slot [StdSort]
    (reached : Run (step config) (fun s call => attachesSole s call = true) State.initial s) :
    s.OneSlot :=
  coherent_invariant reached (fun _ _ _ _ found => by simp [State.initial] at found)
    fun _ _ _ coherent h sole taken => oneSlot_step coherent h sole taken

/-- Such a run attaches, detaches and attaches again. -/
theorem module_holds_one_slot_moved : ∃ s : State, s.OneSlot ∧
    s.attachments[slotB.str]?.any (·.holds 1 1) = true := by
  have moved : (runGuarded (step {}) attachesSole [registerHost, registerBay bayA .ensureCurrent,
      attachFirst 1 bayA slotA, Operation.now (.detach host slotA .autoRetry),
      moveFirst 1 bayA .registered, attachFirst 1 bayA slotB] State.initial).any (fun s =>
        s.attachments[slotB.str]?.any (·.holds 1 1)) = true := by decide +kernel
  obtain ⟨s, reached, taken⟩ := Run.exists_ofGuarded moved
  exact ⟨s, module_holds_one_slot reached, taken⟩

/-- A module that is attached already is attached to a second slot (source `Registry::attach`,
the branch of an attached module). -/
theorem module_holds_two_slots :
    ¬ ∀ (config : RegistryConfig) (s : State), Run (step config) Unguarded State.initial s →
      s.OneSlot := by
  intro h
  have twice : (runActions (step {}) [registerHost, registerBay bayA .ensureCurrent,
      attachFirst 1 bayA slotA, attachFirst 1 bayA slotB] State.initial).any (fun s =>
        s.attachments[slotA.str]?.any (·.holds 1 1) &&
        s.attachments[slotB.str]?.any (·.holds 1 1)) = true := by decide +kernel
  obtain ⟨s, reached, both⟩ := Run.exists_ofActions twice
  simp only [Bool.and_eq_true, Option.any_eq_true, AttachmentRecord.holds, decide_eq_true_eq]
    at both
  obtain ⟨⟨a, takenA, ⟨liveA, uidA⟩, _⟩, ⟨b, takenB, ⟨liveB, uidB⟩, _⟩⟩ := both
  have same := h {} s reached _ _ a b takenA takenB liveA liveB (uidA.trans uidB.symm)
  exact absurd same (by decide)

/-- Along automatic runs whose attaches displace no attached module from its only slot, every
attached module has a live attachment (source `lifecycle_state_implies_attachment`). -/
theorem attached_module_holds_slot [StdSort]
    (reached : Run (step config) (fun s call => (call.automatic && attachesSpare s call) = true)
      State.initial s) : s.AttachedHeld :=
  coherent_invariant reached (fun _ _ found => by simp [State.initial] at found)
    fun _ _ _ coherent h met taken =>
      have met := (Bool.and_eq_true _ _).mp met
      attachedHeld_step coherent h met.1 met.2 taken

/-- Such a run puts a module into a slot. -/
theorem attached_module_holds_slot_first : ∃ s : State, s.AttachedHeld ∧
    s.modules[(1 : UInt64)]?.any (·.state = .attached) = true := by
  have placed : (runGuarded (step {}) (fun s call => call.automatic && attachesSpare s call)
      [registerHost, registerBay bayA .ensureCurrent, attachFirst 1 bayA slotA]
      State.initial).any (fun s => s.modules[(1 : UInt64)]?.any (·.state = .attached)) = true := by
    decide +kernel
  obtain ⟨s, reached, attached⟩ := Run.exists_ofGuarded placed
  exact ⟨s, attached_module_holds_slot reached, attached⟩

/-- A module that takes over a slot leaves the displaced module attached (source
`Registry::attach`, the takeover). -/
theorem displaced_module_stays_attached :
    ¬ ∀ (config : RegistryConfig) (s : State),
      Run (step config) (fun _ call => call.automatic = true) State.initial s →
      s.AttachedHeld := by
  intro h
  have displaced : (runGuarded (step {}) (fun _ call => call.automatic) [registerHost,
      registerBay bayA .ensureCurrent, registerBay bayB .ensureCurrent,
      attachFirst 1 bayA slotA, attachFirst 2 bayB slotA] State.initial).any (fun s =>
        s.modules[(1 : UInt64)]?.any (lifecycleStateImpliesAttachment ·.state) &&
        s.allLive fun _ a => a.uid ≠ 1) = true := by decide +kernel
  obtain ⟨s, reached, both⟩ := Run.exists_ofGuarded displaced
  simp only [Bool.and_eq_true, Option.any_eq_true] at both
  obtain ⟨⟨record, found, placed⟩, nowhere⟩ := both
  obtain ⟨slot, a, taken, live, same, _⟩ := h {} s reached 1 record found placed
  have met := allLive_eq_true nowhere taken live
  simp [same] at met

/-- Along runs that replace no replaced or retired module while it holds a slot, every live
attachment names the current incarnation of a module (source `Registry::register_module`). -/
theorem live_attachment_is_current [StdSort]
    (reached : Run (step config) (fun s call => replacesFreed s call = true) State.initial s) :
    s.SlotsCurrent :=
  coherent_invariant reached (fun _ _ found => by simp [State.initial] at found)
    fun _ _ _ coherent h freed taken => slotsCurrent_step coherent h freed taken

/-- Such a run replaces a module that is in a slot. -/
theorem live_attachment_is_current_replaced : ∃ s : State, s.SlotsCurrent ∧
    s.modules[(1 : UInt64)]?.any (·.incarnation = 2) = true := by
  have replaced : (runGuarded (step {}) replacesFreed [registerHost,
      registerBay bayA .ensureCurrent, attachFirst 1 bayA slotA,
      registerBay bayA .newIncarnation] State.initial).any (fun s =>
        s.modules[(1 : UInt64)]?.any (·.incarnation = 2)) = true := by decide +kernel
  obtain ⟨s, reached, second⟩ := Run.exists_ofGuarded replaced
  exact ⟨s, live_attachment_is_current reached, second⟩

/-- A module that an operator marks as replaced keeps its slot when its replacement is registered
(source `Registry::register_module`, the replacement branch). -/
theorem replaced_module_keeps_slot :
    ¬ ∀ (config : RegistryConfig) (s : State), Run (step config) Unguarded State.initial s →
      s.SlotsCurrent := by
  intro h
  have kept : (runActions (step {}) [registerHost, registerBay bayA .ensureCurrent,
      attachFirst 1 bayA slotA, moveFirst 1 bayA .replaced, registerBay bayA .newIncarnation]
      State.initial).any (fun s => s.attachments[slotA.str]?.any (·.holds 1 1) &&
        s.modules[(1 : UInt64)]?.any (·.incarnation = 2)) = true := by decide +kernel
  obtain ⟨s, reached, both⟩ := Run.exists_ofActions kept
  simp only [Bool.and_eq_true, Option.any_eq_true, AttachmentRecord.holds, decide_eq_true_eq]
    at both
  obtain ⟨⟨a, taken, ⟨live, uid⟩, first⟩, ⟨record, found, second⟩⟩ := both
  obtain ⟨record', found', current⟩ := h {} s reached _ a taken live
  rw [uid, found] at found'
  cases found'
  rw [second, first] at current
  exact absurd current (by decide)

end TransceiverRegistry

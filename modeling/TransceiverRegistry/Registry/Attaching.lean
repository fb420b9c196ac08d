import TransceiverRegistry.Registry.Coherent

/-!
# What a successful attach answers

An attach that finds the module in the slot already answers with the record that is there: it looks
neither at the port it was asked for nor at the state the module is in by now. Every other attach
writes the record it answers and leaves the module attached. So a successful attach is what it says
exactly when the record it finds has the port of the request and the module has not left the states
that go with a slot.
-/

namespace TransceiverRegistry

open Lib

/-- The slot has a live record of the module of this handle (source `Registry::attach`). -/
def HeldBy (s : State) (slot : SlotKey) (module : ModuleHandle) (attachment : AttachmentRecord) :
    Prop :=
  s.attachments[slot.str]? = some attachment ∧
    attachment.holds module.uid module.incarnation = true

/-- An attach is what it says: the record it answers is the live one of the slot, names the module
and the port of the request, and the module fills a slot (source `Registry::attach`). -/
structure AttachDone (s s' : State) (module : ModuleHandle) (slot : SlotKey) (portIndex : UInt32)
    (attachment : AttachmentRecord) : Prop where
  held : HeldBy s' slot module attachment
  named : attachment.slot.str = slot.str
  port : attachment.portIndex = portIndex
  fills : ∃ record, s'.modules[module.uid]? = some record ∧
    record.incarnation = module.incarnation ∧
    (lifecycleStateImpliesAttachment record.state = true ∨
      (record.state = .quarantined ∧ ∃ earlier, HeldBy s slot module earlier))

/-- The record a slot has of a module is for the port of the request, and the module is in a state
that goes with a slot (source `Registry::attach`, the branch of an idempotent attach). -/
def AttachesAsAsked (s : State) (module : ModuleHandle) (slot : SlotKey) (portIndex : UInt32) :
    Prop :=
  ∀ earlier, HeldBy s slot module earlier → earlier.portIndex = portIndex ∧
    ∀ record, s.modules[module.uid]? = some record →
      lifecycleStateImpliesAttachment record.state = true ∨ record.state = .quarantined

variable {config : RegistryConfig} {clock : Clock} {s s' : State} {authority : AuthorityToken}
  {module : ModuleHandle} {slot : SlotKey} {portIndex : UInt32} {policy : MutationPolicy}
  {attachment : AttachmentRecord}

/-- The record an attach writes holds its module (source `Registry::attach`). -/
lemma newAttachment_holds (generation : Generation) (sequence : Sequence) (record : ModuleRecord) :
    (newAttachment clock authority generation sequence slot portIndex record).holds record.uid
      record.incarnation = true := by
  simp [AttachmentRecord.holds, newAttachment]

/-- A move into the attached state ends there (source `Registry::attach`). -/
lemma state_of_attached (record : ModuleRecord) (event : LifecycleEvent)
    (target : event.to_ = .attached) :
    (if record.state ≠ .attached then record.move config event else record).state =
      .attached := by
  by_cases attached : record.state = .attached
  · rw [if_neg (not_not.2 attached)]
    exact attached
  · rw [if_pos attached]
    exact target

/-- A move keeps the incarnation (source the blocks that set `record.state`). -/
lemma incarnation_of_attached (record : ModuleRecord) (event : LifecycleEvent) :
    (if record.state ≠ .attached then record.move config event else record).incarnation =
      record.incarnation := by
  split <;> rfl

/-- A successful attach finds the module in the slot and changes neither table, or it finds it
elsewhere and is what it says (source `Registry::attach`). -/
lemma attach_inv (coherent : Coherent config s)
    (ran : attach config clock authority module slot portIndex policy s = .ok (s', attachment)) :
    ∃ record, s.modules[module.uid]? = some record ∧ record.incarnation = module.incarnation ∧
      ((HeldBy s slot module attachment ∧ s'.modules = s.modules ∧
          s'.attachments = s.attachments) ∨
        ((∀ earlier, ¬ HeldBy s slot module earlier) ∧
          AttachDone s s' module slot portIndex attachment)) := by
  simp only [attach, refuseIf_bind_eq_ok, mutate_eq_ok] at ran
  obtain ⟨-, -, -, next, body, rfl⟩ := ran
  obtain ⟨-, record, found, current, result⟩ := attachBody_inv body
  have uid : record.uid = module.uid := coherent.modules.uid module.uid record found
  rw [uid, current] at result
  refine ⟨record, found, current, ?_⟩
  obtain ⟨taken, holds, rfl⟩ | ⟨other, -, -, written, rfl⟩ := result
  · exact .inl ⟨⟨taken, holds⟩, rfl, rfl⟩
  · refine .inr ⟨fun earlier held => ?_, ?_⟩
    · have free := other earlier held.1
      rw [held.2] at free
      cases free
    · subst written
      refine ⟨⟨Std.ExtTreeMap.getElem?_insert_self, ?_⟩, rfl, rfl,
        _, Std.ExtTreeMap.getElem?_insert_self, ?_, .inl ?_⟩
      · rw [← uid, ← current]
        exact newAttachment_holds (s.generation + 1) (nextSequence s).1 record
      · rw [incarnation_of_attached]
        exact current
      · rw [state_of_attached _ _ rfl]
        rfl

/-- In every reachable state, a successful attach is what it says exactly when the record the slot
has of the module, if it has one, is for the port of the request and the module is still in a state
that goes with a slot (source `Registry::attach`). -/
theorem attach_done_iff [StdSort] (reached : Run (step config) Unguarded State.initial s)
    (ran : attach config clock authority module slot portIndex policy s = .ok (s', attachment)) :
    AttachDone s s' module slot portIndex attachment ↔
      AttachesAsAsked s module slot portIndex := by
  have coherent : Coherent config s := Coherent.run reached
  obtain ⟨record, found, current, ⟨held, modules, attachments⟩ | ⟨other, done⟩⟩ :=
    attach_inv coherent ran
  · -- the record of the slot is answered as it is, whatever was asked
    constructor
    · intro done earlier heldBefore
      have same : earlier = attachment := by
        have both := heldBefore.1.symm.trans held.1
        exact Option.some.inj both
      refine ⟨same ▸ done.port, fun record' found' => ?_⟩
      obtain ⟨after, foundAfter, -, fills⟩ := done.fills
      rw [modules, found'] at foundAfter
      cases foundAfter
      exact fills.imp id And.left
    · intro asked
      obtain ⟨port, fills⟩ := asked attachment held
      refine ⟨⟨attachments ▸ held.1, held.2⟩, ?_, port, record, modules ▸ found, current, ?_⟩
      · exact coherent.slots.key slot.str attachment held.1
      · exact (fills record found).imp id fun quarantined => ⟨quarantined, attachment, held⟩
  · exact iff_of_true done fun earlier held => absurd held (other earlier)

/-- A module attached twice for the same port: both answers are what they say. -/
theorem attach_done_iff_again : ∃ s s' : State, ∃ attachment,
    HeldBy s slotA ⟨1, 1, 0, bayA⟩ attachment ∧
      AttachDone s s' ⟨1, 1, 0, bayA⟩ slotA 0 attachment := by
  have again : (runActions (step {}) [registerHost, registerBay bayA .ensureCurrent,
      attachFirst 1 bayA slotA] State.initial).any (fun s =>
        s.attachments[slotA.str]?.any (fun a => a.holds 1 1 && a.portIndex = 0) &&
        s.modules[(1 : ModuleUid)]?.any (·.state = .attached) &&
        (attach {} stillClock host ⟨1, 1, 0, bayA⟩ slotA 0 .autoRetry s).toOption.any
          (fun r => s.attachments[slotA.str]? = some r.2)) = true := by decide +kernel
  obtain ⟨s, reached, holds⟩ := Run.exists_ofActions again
  simp only [Bool.and_eq_true] at holds
  obtain ⟨⟨slotTaken, moved⟩, answered⟩ := holds
  obtain ⟨⟨s', attachment⟩, ran, same⟩ := exists_ok_of_any answered
  have taken : s.attachments[slotA.str]? = some attachment := of_decide_eq_true same
  rw [taken, Option.any_some, Bool.and_eq_true, decide_eq_true_eq] at slotTaken
  refine ⟨s, s', attachment, ⟨taken, slotTaken.1⟩, (attach_done_iff reached ran).2 ?_⟩
  intro earlier held
  rw [HeldBy, taken, Option.some.injEq] at held
  refine ⟨held.1 ▸ slotTaken.2, fun record found => .inl ?_⟩
  have found : s.modules[(1 : ModuleUid)]? = some record := found
  rw [found, Option.any_some, decide_eq_true_eq] at moved
  rw [moved]
  rfl

/-- An attach for port 1 answers with the record of port 0 when the module is in the slot already
(source `Registry::attach`, the branch of an idempotent attach). -/
theorem attach_ignores_port :
    ¬ ∀ [StdSort] (config : RegistryConfig) (clock : Clock) (s s' : State)
      (authority : AuthorityToken) (module : ModuleHandle) (slot : SlotKey) (portIndex : UInt32)
      (policy : MutationPolicy) (attachment : AttachmentRecord),
      Run (step config) Unguarded State.initial s →
      attach config clock authority module slot portIndex policy s = .ok (s', attachment) →
      AttachDone s s' module slot portIndex attachment := by
  intro h
  have ignored : (runActions (step {}) [registerHost, registerBay bayA .ensureCurrent,
      attachFirst 1 bayA slotA] State.initial).any (fun s =>
        (attach {} stillClock host ⟨1, 1, 0, bayA⟩ slotA 1 .autoRetry s).toOption.any
          (fun r => r.2.portIndex = 0)) = true := by decide +kernel
  obtain ⟨s, reached, answered⟩ := Run.exists_ofActions ignored
  obtain ⟨⟨s', attachment⟩, ran, port⟩ := exists_ok_of_any answered
  have done := h {} stillClock s s' host ⟨1, 1, 0, bayA⟩ slotA 1 .autoRetry attachment reached ran
  have zero : attachment.portIndex = 0 := of_decide_eq_true port
  exact absurd (zero.symm.trans done.port) (by decide)

end TransceiverRegistry

import TransceiverRegistry.Registry.Inversion

/-!
# The budget of live attachments

An attach counts the live attachments before it adds a record under a new slot. A record also
becomes live when a released slot is used again, and there nothing is counted: the budget holds
exactly along the runs that find room whenever they use a released slot.
-/

namespace TransceiverRegistry

open Lib

/-- An attach that uses a released slot again finds room (source `Registry::attach`, the branch of a
record that is not live). -/
def attachesWithinBudget (config : RegistryConfig) (s : State) (call : Call) : Bool :=
  match call.operation with
  | .attach _ _ slot _ _ => match s.attachments[slot.str]? with
    | some existing => existing.live || decide (liveAttachments s < config.maxAttachments.toNat)
    | none => true
  | _ => true

variable {config : RegistryConfig} {clock : Clock} {s s' : State} {generation : Generation}
  {sequence : Sequence} {authority : AuthorityToken} {module : ModuleHandle}

/-- What an attach does to the number of live attachments: it stays, or it grows by one under a slot
that had no live record (source `Registry::attach`). -/
lemma liveAttachments_attach {slot : SlotKey} {portIndex : UInt32} {attachment : AttachmentRecord}
    (run : attachBody config clock authority module slot portIndex s generation sequence =
      .ok (s', attachment)) :
    (s.attachments[slot.str]?.any (·.live) = true ∧ liveAttachments s' = liveAttachments s) ∨
      (s.attachments[slot.str]?.any (·.live) = false ∧
        (s.attachments[slot.str]? = none → liveAttachments s < config.maxAttachments.toNat) ∧
        liveAttachments s' = liveAttachments s + 1) := by
  obtain ⟨_, record, _, _, ⟨taken, holds, rfl⟩ | ⟨_, room, _, rfl, rfl⟩⟩ := attachBody_inv run
  · refine .inl ⟨?_, rfl⟩
    simp only [AttachmentRecord.holds, Bool.and_eq_true] at holds
    rw [taken]
    exact holds.1.1
  · have counted := countP_insert s.attachments slot.str
      (newAttachment clock authority generation sequence slot portIndex record) (·.live)
    cases there : s.attachments[slot.str]?.any (·.live) with
    | true =>
      rw [there] at counted
      exact .inl ⟨rfl, Nat.add_right_cancel counted⟩
    | false =>
      rw [there] at counted
      exact .inr ⟨rfl, room, counted⟩

/-- A detach frees a place (source `Registry::detach`). -/
lemma liveAttachments_detach {slot : SlotKey} {u : Unit}
    (run : detachBody config clock authority slot s generation sequence = .ok (s', u)) :
    liveAttachments s' + 1 = liveAttachments s := by
  obtain ⟨_, attachment, taken, live, rfl⟩ := detachBody_inv run
  have counted := countP_insert s.attachments slot.str
    { attachment with live := false, note := text "detached" } (·.live)
  rw [taken, Option.any_some, live] at counted
  exact counted

/-- A registration releases attachments and makes none live (source `Registry::register_module`). -/
lemma liveAttachments_registerModule [StdSort] {registration : ModuleRegistration}
    {handle : ModuleHandle}
    (run : registerModuleBody config clock registration authority s generation sequence =
      .ok (s', handle)) : liveAttachments s' ≤ liveAttachments s := by
  obtain ⟨_, t, uid, located, _, _, locate, _, _, rfl⟩ := registerModuleBody_inv run
  obtain ⟨_, _, _, _, rfl⟩ | ⟨old, _, _, ⟨_, _, _, rfl, _⟩ | ⟨_, replaced⟩⟩ :=
    locateModule_inv locate
  · exact Nat.le_refl _
  · exact Nat.le_refl _
  · obtain ⟨_, rfl, _⟩ := replaceIncarnation_inv replaced
    simp only [liveAttachments]
    split
    · refine countP_map_le _ _ AttachmentRecord.live fun _ a live => ?_
      unfold releaseAttachment at live
      split at live
      · cases live
      · exact live
    · exact Nat.le_refl _

/-- What a step does to the number of live attachments: it grows by one when an attach writes under
a slot without a live record, and never otherwise (source `RegistryImpl::mutate`). -/
lemma liveAttachments_step [StdSort] {call : Call} (taken : step config s call = some s') :
    (liveAttachments s' ≤ liveAttachments s ∧ attachesWithinBudget config s call = true) ∨
      ∃ authority module slot portIndex policy,
        call.operation = .attach authority module slot portIndex policy ∧
        s.attachments[slot.str]?.any (·.live) = false ∧
        (s.attachments[slot.str]? = none → liveAttachments s < config.maxAttachments.toNat) ∧
        liveAttachments s' = liveAttachments s + 1 := by
  obtain ⟨-, next, run, rfl⟩ := step_eq_some taken
  obtain ⟨operation, clock⟩ := call
  cases operation <;> rw [Operation.body, fst_map_eq_ok] at run <;> obtain ⟨result, run⟩ := run
  case registerSource =>
    obtain ⟨_, _, _, _, _, _, rfl⟩ | ⟨_, _, _, rfl⟩ := registerSourceBody_inv run <;>
      exact .inl ⟨Nat.le_refl _, rfl⟩
  case registerModule =>
    have fewer := liveAttachments_registerModule run
    exact .inl ⟨fewer, rfl⟩
  case updateIdentity =>
    obtain ⟨_, _, _, _, _, rfl⟩ := updateIdentityBody_inv run
    exact .inl ⟨Nat.le_refl _, rfl⟩
  case publishCapability =>
    obtain ⟨_, _, _, _, _, rfl⟩ := publishCapabilityBody_inv run
    exact .inl ⟨Nat.le_refl _, rfl⟩
  case publishPortCapability =>
    obtain ⟨_, _, _, _, _, _, _, rfl⟩ := publishPortCapabilityBody_inv run
    exact .inl ⟨Nat.le_refl _, rfl⟩
  case attach authority module slot portIndex policy =>
    obtain ⟨live, same⟩ | ⟨free, room, grown⟩ := liveAttachments_attach run
    · refine .inl ⟨same.le, ?_⟩
      have live : s.attachments[slot.str]?.any (·.live) = true := live
      simp only [attachesWithinBudget]
      cases found : s.attachments[slot.str]? with
      | none => rfl
      | some existing =>
        rw [found, Option.any_some] at live
        simp [live]
    · exact .inr ⟨authority, module, slot, portIndex, policy, rfl, free, room, grown⟩
  case detach =>
    have freed := liveAttachments_detach run
    exact .inl ⟨Nat.le_of_succ_le freed.le, rfl⟩
  case ingestHealth =>
    obtain ⟨_, _, _, _, _, _, _, _, _, _, _, rfl⟩ := ingestHealthBody_inv run
    exact .inl ⟨Nat.le_refl _, rfl⟩
  case publishThreshold =>
    obtain ⟨_, _, rfl⟩ := publishThresholdBody_inv run
    exact .inl ⟨Nat.le_refl _, rfl⟩
  case publishRule =>
    obtain ⟨_, _, rfl⟩ := publishRuleBody_inv run
    exact .inl ⟨Nat.le_refl _, rfl⟩
  case retireRule =>
    obtain ⟨_, _, _, _, rfl⟩ := retireRuleBody_inv run
    exact .inl ⟨Nat.le_refl _, rfl⟩
  case transition =>
    obtain ⟨_, _, _, _, _, _, rfl⟩ := transitionBody_inv run
    exact .inl ⟨Nat.le_refl _, rfl⟩
  case reconcileLifecycle =>
    obtain ⟨_, _, _, _, _, _, ⟨_, rfl⟩ | ⟨_, _, _, rfl⟩⟩ := reconcileLifecycleBody_inv run <;>
      exact .inl ⟨Nat.le_refl _, rfl⟩

/-- A step from within the budget stays within it exactly when it finds room for a released slot
(source `Registry::attach`). -/
lemma budget_step_iff [StdSort] {call : Call}
    (within : liveAttachments s ≤ config.maxAttachments.toNat)
    (taken : step config s call = some s') :
    liveAttachments s' ≤ config.maxAttachments.toNat ↔
      attachesWithinBudget config s call = true := by
  obtain ⟨fewer, met⟩ | ⟨_, _, slot, _, _, attached, free, room, grown⟩ :=
    liveAttachments_step taken
  · exact iff_of_true (fewer.trans within) met
  · rw [grown]
    simp only [attachesWithinBudget, attached]
    cases found : s.attachments[slot.str]? with
    | none => exact iff_of_true (room found) rfl
    | some existing =>
      rw [found, Option.any_some] at free
      simp only [free, Bool.false_or, decide_eq_true_eq, Nat.succ_le_iff]

/-- Along runs that find room whenever they use a released slot again, there are never more live
attachments than the budget allows, and the next step keeps it so exactly when it finds room
(source `Registry::attach`). -/
theorem attachment_budget_holds [StdSort]
    (reached : Run (step config) (fun s call => attachesWithinBudget config s call = true)
      State.initial s) :
    liveAttachments s ≤ config.maxAttachments.toNat ∧
      ∀ call s', step config s call = some s' →
        (liveAttachments s' ≤ config.maxAttachments.toNat ↔
          attachesWithinBudget config s call = true) := by
  have within : liveAttachments s ≤ config.maxAttachments.toNat := by
    refine reached.invariant (fun s => liveAttachments s ≤ config.maxAttachments.toNat) ?_ ?_
    · exact Nat.zero_le _
    · intro s call s' within met taken
      exact (budget_step_iff within taken).2 met
  exact ⟨within, fun call s' taken => budget_step_iff within taken⟩

/-- Such a run uses a released slot again, within a budget of one attachment. -/
theorem attachment_budget_holds_again : ∃ s : State, liveAttachments s ≤ 1 ∧
    s.attachments[slotA.str]?.any (·.holds 1 1) = true := by
  have again : (runGuarded (step { maxAttachments := 1 })
      (attachesWithinBudget { maxAttachments := 1 }) [registerHost,
      registerBay bayA .ensureCurrent, attachFirst 1 bayA slotA,
      Operation.now (.detach host slotA .autoRetry), moveFirst 1 bayA .registered,
      attachFirst 1 bayA slotA] State.initial).any (fun s =>
        s.attachments[slotA.str]?.any (·.holds 1 1)) = true := by decide +kernel
  obtain ⟨s, reached, taken⟩ := Run.exists_ofGuarded again
  exact ⟨s, (attachment_budget_holds reached).1, taken⟩

/-- A released slot is used again without a look at the budget: with a budget of one, two slots have
a live attachment (source `Registry::attach`, the branch of a record that is not live). -/
theorem released_slot_exceeds_budget :
    ¬ ∀ (config : RegistryConfig) (s : State), Run (step config) Unguarded State.initial s →
      liveAttachments s ≤ config.maxAttachments.toNat := by
  intro h
  have exceeded : (runActions (step { maxAttachments := 1 }) [registerHost,
      registerBay bayA .ensureCurrent, registerBay bayB .ensureCurrent,
      attachFirst 1 bayA slotA, Operation.now (.detach host slotA .autoRetry),
      attachFirst 2 bayB slotB, moveFirst 1 bayA .registered, attachFirst 1 bayA slotA]
      State.initial).any (fun s => decide (liveAttachments s = 2)) = true := by decide +kernel
  obtain ⟨s, reached, two⟩ := Run.exists_ofActions exceeded
  have within := h { maxAttachments := 1 } s reached
  rw [of_decide_eq_true two] at within
  exact absurd within (by decide)

end TransceiverRegistry

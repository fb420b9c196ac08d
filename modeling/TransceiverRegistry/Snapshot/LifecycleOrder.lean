import Mathlib.Data.Prod.Lex
import TransceiverRegistry.Lib.Ties
import TransceiverRegistry.Registry.Operation
import TransceiverRegistry.Snapshot.Rebuilt

/-!
# The order of the lifecycle history

The events of a module are written in the order of their sequence number and time, by a sort that
may leave events that share both in any order. The first two events of every module share both.
-/

namespace TransceiverRegistry

open Lib

/-- Events by the place of their sequence number and time. -/
def eventPlace (event : LifecycleEvent) : Lex (Nat × Int) :=
  toLex (event.sequence.toNat, event.wallNs.toInt)

/-- Events are ordered by their places (source `encode_module`). -/
lemma eventBefore_iff {a b : LifecycleEvent} :
    eventBefore a b = true ↔ eventPlace a < eventPlace b := by
  rw [eventBefore, eventPlace, eventPlace, Prod.Lex.toLex_lt_toLex, UInt64.toNat_inj]
  split
  · rename_i differ
    rw [decide_eq_true_iff, UInt64.lt_iff_toNat_lt]
    simp only [differ, false_and, or_false]
  · rename_i same
    have same := not_not.1 same
    rw [decide_eq_true_iff, Int64.lt_iff_toInt_lt]
    simp [same]

/-- The order of the events is a strict weak order (source `encode_module`). -/
lemma strictWeakOn_eventBefore (events : List LifecycleEvent) : StrictWeakOn eventBefore events :=
  strictWeakOn_rank eventPlace (fun _ _ => eventBefore_iff) events

/-- Events are tied when they share their sequence number and time, and only then
(source `encode_module`). -/
lemma tied_eventBefore_iff {a b : LifecycleEvent} :
    tied eventBefore a b = true ↔ a.sequence = b.sequence ∧ a.wallNs = b.wallNs := by
  rw [tied_iff, ← Bool.not_eq_true, ← Bool.not_eq_true, eventBefore_iff, eventBefore_iff, not_lt,
    not_lt, ← le_antisymm_iff, eventPlace, eventPlace, toLex_inj, Prod.mk.injEq, Int64.toInt_inj,
    UInt64.toNat_inj]
  exact and_congr eq_comm eq_comm

/-- The events of a module come back as they were when there are some, and the sort keeps them
(source `encode_module`, `decode_module`). -/
lemma restored_lifecycle_iff [StdSort] {includeHistory : Bool} {record : ModuleRecord} :
    (record.stored includeHistory).restored.lifecycle = record.lifecycle ↔
      record.lifecycle ≠ [] ∧ StdSort.sort eventBefore record.lifecycle = record.lifecycle := by
  have stored : (record.stored includeHistory).lifecycle =
      StdSort.sort eventBefore record.lifecycle := rfl
  have perm := StdSort.perm eventBefore record.lifecycle
  rw [ModuleRecord.restored, stored]
  dsimp only
  by_cases none : record.lifecycle = []
  · rw [none] at perm ⊢
    rw [if_pos perm.eq_nil]
    simp
  · have some : StdSort.sort eventBefore record.lifecycle ≠ [] := fun empty => by
      rw [empty] at perm
      exact none perm.nil_eq.symm
    rw [if_neg some, and_iff_right none]

/-- The events are read back in their order, whatever order the sort leaves tied events in, exactly
when what is written can be read back, there are events, and every sort keeps them (source
`encode_module`, `decode_module`). -/
lemma keepsLifecycle_iff {includeHistory : Bool} {record : ModuleRecord} :
    (∀ [StdSort], ∃ read, decodeModule (encodeModule includeHistory record) = .ok read ∧
      read.lifecycle = record.lifecycle) ↔
    record.Decodable includeHistory ∧ record.lifecycle ≠ [] ∧
      ∀ s : StdSort, s.sort eventBefore record.lifecycle = record.lifecycle := by
  constructor
  · intro kept
    obtain ⟨read, decoded, same⟩ := kept
    obtain ⟨decodable, rfl⟩ := decodeModule_iff.1 decoded
    refine ⟨decodable, (restored_lifecycle_iff.1 same).1, fun sort => ?_⟩
    obtain ⟨read, decoded, same⟩ := @kept sort
    obtain ⟨_, rfl⟩ := decodeModule_iff.1 decoded
    exact (restored_lifecycle_iff.1 same).2
  · rintro ⟨decodable, some, kept⟩ sort
    exact ⟨_, decodeModule_iff.2 ⟨decodable, rfl⟩, restored_lifecycle_iff.2 ⟨some, kept sort⟩⟩

/-- The events of a module record are read back in their order, whatever order the sort leaves tied
events in, exactly when what is written of the record can be read back, there are events, they are
in the order of their sequence number and time, and no two of them share both (source
`encode_module`, `decode_module`). -/
theorem lifecycle_order_kept_iff (includeHistory : Bool) (record : ModuleRecord) :
    (∀ [StdSort], ∃ read, decodeModule (encodeModule includeHistory record) = .ok read ∧
      read.lifecycle = record.lifecycle) ↔
    record.Decodable includeHistory ∧ record.lifecycle ≠ [] ∧
      SortedBy eventBefore record.lifecycle ∧
      ∀ a ∈ record.lifecycle, ∀ b ∈ record.lifecycle,
        a.sequence = b.sequence → a.wallNs = b.wallNs → a = b := by
  rw [keepsLifecycle_iff, sort_eq_self_iff (strictWeakOn_eventBefore record.lifecycle)]
  simp only [tied_eventBefore_iff, and_imp]

/-- Two different events of the history share their sequence number and time. -/
def sharesPlace (record : ModuleRecord) : Bool :=
  record.lifecycle.any fun a => record.lifecycle.any fun b =>
    a.sequence = b.sequence && a.wallNs = b.wallNs && a ≠ b

/-- The events of a module that was registered are discovered and registered at one sequence number
and time, so a sort may leave the second one before the first one (source
`Registry::register_module`). -/
theorem lifecycle_order_lost :
    ¬ ∀ (config : RegistryConfig) (s : State), Run (step config) Unguarded State.initial s →
      ∀ (uid : ModuleUid) (record : ModuleRecord), s.modules[uid]? = some record →
      ∀ (includeHistory : Bool) [StdSort], ∃ read,
        decodeModule (encodeModule includeHistory record) = .ok read ∧
        read.lifecycle = record.lifecycle := by
  intro kept
  have registered : (runActions (step {}) [registerHost, registerBay bayA .ensureCurrent]
      State.initial).any (fun s => s.modules[(1 : UInt64)]?.any sharesPlace) = true := by
    decide +kernel
  obtain ⟨s, reached, shares⟩ := Run.exists_ofActions registered
  obtain ⟨record, found, shares⟩ := (Option.any_eq_true _ _).1 shares
  simp only [sharesPlace, List.any_eq_true, Bool.and_eq_true, decide_eq_true_eq] at shares
  obtain ⟨a, inA, b, inB, ⟨sequence, time⟩, differ⟩ := shares
  obtain ⟨_, _, sorts⟩ := keepsLifecycle_iff.1 fun {_} => kept {} s reached 1 record found true
  obtain ⟨_, equal⟩ := (sort_eq_self_iff (strictWeakOn_eventBefore record.lifecycle)).1 sorts
  exact differ (equal a inA b inB (tied_eventBefore_iff.2 ⟨sequence, time⟩))

end TransceiverRegistry

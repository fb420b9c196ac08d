import TransceiverRegistry.Lib.Threads
import TransceiverRegistry.Registry.Operation
import TransceiverRegistry.Snapshot.Written

/-!
# Autosaves of several threads

The locked block of `RegistryImpl::mutate`, the capture of the state in `save_snapshot_impl` and the
rename of `write_file_atomically` of any number of threads, interleaved in any order. Autosave stays
enabled under one path, and every write succeeds.
-/

namespace TransceiverRegistry

open Lib

/-- Where a thread stands in a mutation (source `RegistryImpl::mutate`). -/
inductive SavePoint where
  /-- In no call. -/
  | idle
  /-- After the locked block, before the state is captured. -/
  | committed
  /-- With the state that is written. -/
  | captured (state : State)
  /-- After the rename, before the generation is noted. -/
  | renamed

/-- The thread is in no call. -/
def SavePoint.isIdle : SavePoint → Bool
  | .idle => true
  | _ => false

/-- A registry that threads change, and the file at the autosave path. -/
structure Autosaved where
  registry : State
  threads : List SavePoint
  disk : Option Bytes
  autosaveGeneration : Generation

/-- A section of one of the threads. -/
inductive SaveSection where
  /-- A mutation that succeeds (source `RegistryImpl::mutate`, the locked block). -/
  | mutate (t : Nat) (call : Call)
  /-- The next section of an autosave (source `RegistryImpl::maybe_autosave`). -/
  | save (t : Nat)

/-- What a section did to the registry or to the file. -/
inductive SaveEffect where
  | committed (call : Call)
  | saved (state : State)

/-- Any number of threads in no call. -/
def Autosaved.start (s : State) (threads : Nat) (disk : Option Bytes) : Autosaved where
  registry := s
  threads := List.replicate threads .idle
  disk
  autosaveGeneration := 0

/-- Put a thread at a point. -/
def Autosaved.setThread (w : Autosaved) (t : Nat) (point : SavePoint) : Autosaved :=
  { w with threads := w.threads.set t point }

/-- What a section did, from the state it was taken in. -/
def Autosaved.effect (w : Autosaved) (action : SaveSection) (_ : Autosaved) : List SaveEffect :=
  match action with
  | .mutate _ call => [.committed call]
  | .save t => match w.threads[t]? with
    | some (.captured state) => [.saved state]
    | _ => []

/-- The snapshot was taken of this state or of an earlier generation. -/
def SaveEffect.isUpTo (generation : Generation) : SaveEffect → Bool
  | .committed _ => true
  | .saved state => state.generation ≤ generation

/-- A state that is renamed to the path is not older than one that was, and a mutation has a next
generation. -/
def savesInOrder (w : Autosaved × List SaveEffect) : SaveSection → Bool
  | .mutate _ _ => w.1.registry.generation ≠ 0xFFFFFFFFFFFFFFFF
  | .save t => match w.1.threads[t]? with
    | some (.captured state) => w.2.all (SaveEffect.isUpTo state.generation)
    | _ => true

section Steps

variable [StdSort]

/-- The next section of an autosave (source `RegistryImpl::maybe_autosave`,
`save_snapshot_impl`). -/
def Autosaved.saveStep (includeHistory : Bool) (w : Autosaved) (t : Nat) : Option Autosaved :=
  match w.threads[t]? with
  | some .committed => some (w.setThread t (.captured w.registry))
  | some (.captured state) =>
    some { w.setThread t .renamed with disk := some (snapshotFile state includeHistory) }
  | some .renamed =>
    some { w.setThread t .idle with autosaveGeneration := w.registry.generation }
  | _ => none

/-- The threads take their sections in any order. -/
def Autosaved.step (config : RegistryConfig) (includeHistory : Bool) (w : Autosaved) :
    SaveSection → Option Autosaved
  | .mutate t call =>
    if (w.threads[t]?.any SavePoint.isIdle) = true then
      (TransceiverRegistry.step config w.registry call).map fun s =>
        { w.setThread t .committed with registry := s }
    else none
  | .save t => w.saveStep includeHistory t

/-- The threads, and what their sections did. -/
def Autosaved.logged (config : RegistryConfig) (includeHistory : Bool) :
    Autosaved × List SaveEffect → SaveSection → Option (Autosaved × List SaveEffect) :=
  withHistory (Autosaved.step config includeHistory) Autosaved.effect

/-- Once something was committed and every call has returned, the file holds the state of the
registry. -/
def KeepsLatest (includeHistory : Bool) (w : Autosaved × List SaveEffect) : Prop :=
  ∀ call, .committed call ∈ w.2 → w.1.threads.all SavePoint.isIdle = true →
    w.1.disk = some (snapshotFile w.1.registry includeHistory)

/-- A thread is about to save the state of the registry. -/
def Autosaved.Pending (w : Autosaved) (t : Nat) : Prop :=
  w.threads[t]? = some .committed ∨ w.threads[t]? = some (.captured w.registry)

/-- What was captured is the state of the registry or older, and the state of the registry is in the
file or about to be saved. -/
structure Saving (includeHistory : Bool) (w : Autosaved × List SaveEffect) : Prop where
  older : ∀ (t : Nat) (s : State), w.1.threads[t]? = some (.captured s) →
    s = w.1.registry ∨ s.generation < w.1.registry.generation
  pending : ∀ call, .committed call ∈ w.2 →
    (w.1.disk = some (snapshotFile w.1.registry includeHistory) ∧ .saved w.1.registry ∈ w.2) ∨
      ∃ t, w.1.Pending t

variable {config : RegistryConfig} {includeHistory : Bool} {w w' : Autosaved × List SaveEffect}

/-- A committed state is about to be saved (source `RegistryImpl::mutate`). -/
lemma Saving.commit (h : Saving includeHistory w) {t : Nat} {call : Call} {s : State}
    (thread : w.1.threads[t]? = some .idle) (room : w.1.registry.generation ≠ 0xFFFFFFFFFFFFFFFF)
    (taken : TransceiverRegistry.step config w.1.registry call = some s) :
    Saving includeHistory ({ w.1.setThread t .committed with registry := s },
      w.2 ++ [.committed call]) := by
  have later := generation_lt_of_step room taken
  refine ⟨fun u c captured => .inr ?_, fun _ _ => .inr ⟨t, .inl ?_⟩⟩
  · have captured := (getElem?_set_of_getElem? thread).symm.trans captured
    split at captured
    · cases captured
    · obtain rfl | earlier := h.older u c captured
      · exact later
      · exact UInt64.lt_trans earlier later
  · exact (getElem?_set_of_getElem? thread).trans (if_pos rfl)

/-- The state of the registry is captured (source `save_snapshot_impl`, `impl.current`). -/
lemma Saving.capture (h : Saving includeHistory w) {t : Nat}
    (thread : w.1.threads[t]? = some .committed) :
    Saving includeHistory (w.1.setThread t (.captured w.1.registry), w.2) := by
  refine ⟨fun u c captured => ?_, fun call member => ?_⟩
  · have captured := (getElem?_set_of_getElem? thread).symm.trans captured
    split at captured
    · cases captured
      exact .inl rfl
    · exact h.older u c captured
  · refine (h.pending call member).imp_right fun ⟨u, pending⟩ => ⟨u, ?_⟩
    have after : (w.1.setThread t (.captured w.1.registry)).threads[u]? = _ :=
      getElem?_set_of_getElem? thread
    split at after
    · exact .inr after
    · exact pending.imp after.trans after.trans

/-- A state that is not older than a saved one is renamed to the path
(source `write_file_atomically`). -/
lemma Saving.rename (h : Saving includeHistory w) {t : Nat} {c : State}
    (thread : w.1.threads[t]? = some (.captured c))
    (inOrder : w.2.all (SaveEffect.isUpTo c.generation) = true) :
    Saving includeHistory ({ w.1.setThread t .renamed with
      disk := some (snapshotFile c includeHistory) }, w.2 ++ [.saved c]) := by
  refine ⟨fun u s captured => ?_, fun call member => ?_⟩
  · have captured := (getElem?_set_of_getElem? thread).symm.trans captured
    split at captured
    · cases captured
    · exact h.older u s captured
  obtain rfl | older := h.older t c thread
  · exact .inl ⟨rfl, List.mem_append_right _ List.mem_cons_self⟩
  have committed : .committed call ∈ w.2 := by
    obtain earlier | now := List.mem_append.1 member
    · exact earlier
    · cases List.mem_singleton.1 now
  obtain ⟨_, saved⟩ | ⟨u, pending⟩ := h.pending call committed
  · -- the file holds the state of the registry already, and this one is older
    have upTo := of_decide_eq_true (List.all_eq_true.1 inOrder _ saved)
    exact absurd older (UInt64.not_lt.2 upTo)
  · have other : t ≠ u := by
      rintro rfl
      obtain before | same := pending <;> rw [thread] at *
      · cases before
      · cases same
        exact UInt64.lt_irrefl _ older
    have after : (w.1.setThread t .renamed).threads[u]? = w.1.threads[u]? :=
      (getElem?_set_of_getElem? thread).trans (if_neg other)
    exact .inr ⟨u, pending.imp after.trans after.trans⟩

/-- A thread that has saved returns (source `RegistryImpl::maybe_autosave`,
`autosave_generation`). -/
lemma Saving.finish (h : Saving includeHistory w) {t : Nat} {generation : Generation}
    (thread : w.1.threads[t]? = some .renamed) :
    Saving includeHistory ({ w.1.setThread t .idle with autosaveGeneration := generation },
      w.2) := by
  refine ⟨fun u c captured => ?_, fun call member => ?_⟩
  · have captured := (getElem?_set_of_getElem? thread).symm.trans captured
    split at captured
    · cases captured
    · exact h.older u c captured
  · refine (h.pending call member).imp_right fun ⟨u, pending⟩ => ⟨u, ?_⟩
    have other : t ≠ u := by
      rintro rfl
      rw [Autosaved.Pending, thread] at pending
      obtain before | same := pending
      · cases before
      · cases same
    have after : (w.1.setThread t .idle).threads[u]? = w.1.threads[u]? :=
      (getElem?_set_of_getElem? thread).trans (if_neg other)
    exact pending.imp after.trans after.trans

/-- Every section keeps the state of the registry in the file or about to be saved. -/
lemma Saving.step (h : Saving includeHistory w) {action : SaveSection}
    (inOrder : savesInOrder w action = true)
    (taken : Autosaved.logged config includeHistory w action = some w') :
    Saving includeHistory w' := by
  obtain ⟨moved, log⟩ := withHistory_eq_some.1 taken
  obtain ⟨d, effects⟩ := w'
  obtain rfl : effects = w.2 ++ w.1.effect action d := log
  cases action with
  | mutate t call =>
    rw [Autosaved.step] at moved
    split at moved
    · rename_i idle
      obtain ⟨s, committed, rfl⟩ := Option.map_eq_some_iff.1 moved
      obtain ⟨point, thread, free⟩ := (Option.any_eq_true _ _).1 idle
      cases point with
      | idle => exact h.commit thread (of_decide_eq_true inOrder) committed
      | _ => cases free
    · cases moved
  | save t =>
    have moved : w.1.saveStep includeHistory t = some d := moved
    unfold Autosaved.saveStep at moved
    cases thread : w.1.threads[t]? with
    | none =>
      rw [thread] at moved
      cases moved
    | some point =>
      rw [thread] at moved
      rw [savesInOrder, thread] at inOrder
      rw [Autosaved.effect, thread]
      cases point with
      | idle => cases moved
      | committed =>
        cases moved
        rw [List.append_nil]
        exact h.capture thread
      | captured c =>
        cases moved
        exact h.rename thread inOrder
      | renamed =>
        cases moved
        rw [List.append_nil]
        exact h.finish thread

/-- In every run in which no older state is renamed over a newer one the state of the registry is in the
file or about to be saved. -/
lemma saving_of_run {s : State} {threads : Nat} {disk : Option Bytes}
    (reached : Run (Autosaved.logged config includeHistory)
      (fun w action => savesInOrder w action = true) (Autosaved.start s threads disk, []) w) :
    Saving includeHistory w := by
  refine reached.invariant (Saving includeHistory) ?_ fun w action w' h => h.step
  refine ⟨fun t c captured => ?_, fun call member => (List.not_mem_nil member).elim⟩
  cases List.eq_of_mem_replicate (List.mem_of_getElem? captured)

/-- When every call has returned, nothing is about to be saved. -/
lemma Saving.keepsLatest (h : Saving includeHistory w) : KeepsLatest includeHistory w := by
  intro call member idle
  obtain ⟨latest, _⟩ | ⟨t, pending⟩ := h.pending call member
  · exact latest
  · have resting {point : SavePoint} (thread : w.1.threads[t]? = some point) :
        point.isIdle = true := List.all_eq_true.1 idle _ (List.mem_of_getElem? thread)
    obtain before | captured := pending
    · cases resting before
    · cases resting captured

/-- In every run of any number of threads in which no older state is renamed over a newer one:
whenever something was committed and every call has returned, the file holds the state of the
registry (source `RegistryImpl::maybe_autosave`). -/
theorem autosave_keeps_latest (config : RegistryConfig) (includeHistory : Bool) (s : State)
    (threads : Nat) (disk : Option Bytes) (w : Autosaved × List SaveEffect)
    (reached : Run (Autosaved.logged config includeHistory)
      (fun w action => savesInOrder w action = true) (Autosaved.start s threads disk, []) w) :
    KeepsLatest includeHistory w :=
  (saving_of_run reached).keepsLatest

end Steps

/-- The file holds a snapshot of this generation. -/
def diskAt (w : Autosaved × List SaveEffect) (generation : Generation) : Bool :=
  w.1.disk.any fun bytes => declaredGeneration bytes = generation

/-- Something was committed. -/
def SaveEffect.isCommit : SaveEffect → Bool
  | .committed _ => true
  | .saved _ => false

/-- Two mutations were committed, and every call has returned. -/
def settledAtTwo (w : Autosaved × List SaveEffect) : Bool :=
  w.1.registry.generation = 2 && w.1.threads.all SavePoint.isIdle && w.2.any SaveEffect.isCommit

/-- A source is registered by the first thread and a module by the second one, and both capture
their state. -/
def bothCapture : List SaveSection :=
  [.mutate 0 registerHost, .save 0, .mutate 1 (registerBay bayA .ensureCurrent), .save 1]

/-- When the captured states are renamed in their order, the file is up to date. -/
theorem autosave_keeps_latest_in_order : ∃ w, settledAtTwo w = true ∧ KeepsLatest true w := by
  have inOrder : (runGuarded (Autosaved.logged {} true) savesInOrder
      (bothCapture ++ [.save 0, .save 1, .save 0, .save 1])
      (Autosaved.start .initial 2 none, [])).any settledAtTwo = true := by decide +kernel
  obtain ⟨w, reached, settled⟩ := Run.exists_ofGuarded inOrder
  exact ⟨w, settled, autosave_keeps_latest {} true .initial 2 none w reached⟩

set_option maxRecDepth 20000 in
/-- When the second thread renames first, the file is left at the older generation
(source `RegistryImpl::maybe_autosave`, `save_snapshot_impl`). -/
theorem older_autosave_left :
    ¬ ∀ (config : RegistryConfig) (includeHistory : Bool) (s : State) (threads : Nat)
      (disk : Option Bytes) (w : Autosaved × List SaveEffect),
      Run (Autosaved.logged config includeHistory) Unguarded
        (Autosaved.start s threads disk, []) w →
      KeepsLatest includeHistory w := by
  intro h
  have overtaken : (runActions (Autosaved.logged {} true)
      (bothCapture ++ [.save 1, .save 0, .save 0, .save 1])
      (Autosaved.start .initial 2 none, [])).any
        (fun w => settledAtTwo w && diskAt w 1) = true := by decide +kernel
  obtain ⟨w, reached, ends⟩ := Run.exists_ofActions overtaken
  simp only [settledAtTwo, diskAt, Bool.and_eq_true, decide_eq_true_eq, Option.any_eq_true] at ends
  obtain ⟨⟨⟨latest, idle⟩, commits⟩, bytes, held, declared⟩ := ends
  obtain ⟨effect, member, commits⟩ := List.any_eq_true.1 commits
  cases effect with
  | committed call =>
    have kept := h {} true .initial 2 none w reached call member idle
    rw [held] at kept
    rw [Option.some.inj kept, declaredGeneration_snapshotFile, latest] at declared
    exact absurd declared (by decide)
  | saved s => cases commits

end TransceiverRegistry

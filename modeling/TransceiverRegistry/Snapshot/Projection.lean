import TransceiverRegistry.Snapshot.Autosave
import TransceiverRegistry.Snapshot.Survival

/-!
# Autosaves, call by call

The autosaves of several threads are modelled twice: with the rename as one step that succeeds, and with
every call of the system as a step of its own. While the calls succeed and each save has the temporary
file for itself, a run of the second model is one of the first: what a save does before its rename
changes nothing there. So the file keeps up with the registry in the second model too.
-/

namespace TransceiverRegistry

open Lib

/-- Nothing has failed in the write. -/
def WritePoint.succeeding : WritePoint → Bool
  | .closing _ (some _) | .removing _ | .returned (.error _) => false
  | _ => true

/-- Where a thread stands when its save is one step. -/
def Saver.point : Saver → SavePoint
  | .idle => .idle
  | .committed _ => .committed
  | .writing _ (.returned _) => .renamed
  | .writing save _ => .captured save.state

/-- The registry, its threads and the file at the path, when a save is one step. -/
def Durable.autosaved (w : Durable) : Autosaved where
  registry := w.registry
  threads := w.threads.map Saver.point
  disk := w.disk.read .path
  autosaveGeneration := w.autosaveGeneration

/-- A thread saves only what it has committed, under the options of the autosave. -/
def autosavesOnly (includeHistory : Bool) (w : Durable × List DurableEffect) :
    DurableAction → Bool
  | .capture t options => (w.1.threads[t]?.all fun thread => !thread.point.isIdle) &&
      options.includeHistory == includeHistory
  | _ => true

/-- All saves are autosaves, their calls succeed, and each opens the temporary file alone. -/
def autosavesWell (includeHistory : Bool) (w : Durable × List DurableEffect)
    (action : DurableAction) : Bool :=
  action.succeeds && savesAlone w action && autosavesOnly includeHistory w action

section Write

variable {path bytes : Bytes} {fsync : Bool} {disk disk' : Disk} {point point' : WritePoint}
  {action : WriteAction} {save : Save}

/-- A call that succeeds fails nothing (source `write_file_atomically`). -/
lemma WritePoint.succeeding_step (well : point.succeeding = true) (succeeds : action.succeeds = true)
    (moved : point.step path fsync disk action = some (disk', point')) :
    point'.succeeding = true := by
  unfold WritePoint.step at moved
  split at moved
  · cases succeeds
  · cases moved
    rfl
  · obtain ⟨_, _, e⟩ := Option.map_eq_some_iff.1 moved
    cases e
    rfl
  · obtain rfl : _ = true := succeeds
    split at moved
    · cases moved
    · cases moved
      unfold OutStream.written
      cases fsync <;> rfl
  · obtain ⟨_, _, e⟩ := Option.map_eq_some_iff.1 moved
    cases e
    rfl
  · obtain rfl : _ = true := succeeds
    cases moved
    rfl
  · rename_i failure count
    obtain ⟨_, _, e⟩ := Option.map_eq_some_iff.1 moved
    cases e
    cases failure with
    | none => rfl
    | some failure => cases well
  · split at moved
    · cases moved
      rfl
    · cases moved
  · cases succeeds
  · cases well
  · obtain ⟨_, _, e⟩ := Option.map_eq_some_iff.1 moved
    cases e
    rfl
  · cases succeeds
  · cases well
  · cases well
  · cases moved

/-- A write whose call goes on stands before the rename (source `write_file_atomically`). -/
lemma Saver.point_of_step
    (moved : point.step path fsync disk action = some (disk', point')) :
    (Saver.writing save point).point = .captured save.state := by
  cases point with
  | returned => cases moved
  | _ => rfl

/-- A write that has not returned stands before the rename. -/
lemma Saver.point_of_open (stays : point' ≠ .returned (.ok ())) (well : point'.succeeding = true) :
    (Saver.writing save point').point = .captured save.state := by
  cases point' with
  | returned status =>
    cases status with
    | ok => exact absurd rfl stays
    | error => cases well
  | _ => rfl

end Write

/-- A run of the saves call by call, and one of the saves in one step. -/
structure Projected [StdSort] (includeHistory : Bool) (s : State) (first : Option Bytes)
    (w : Durable × List DurableEffect) (d : Autosaved × List SaveEffect) : Prop where
  state : d.1 = w.1.autosaved
  commits : ∀ state, .committed state ∈ w.2 → ∃ call, .committed call ∈ d.2
  saves : ∀ state, .saved state ∈ d.2 → ∃ save, .renamed save ∈ w.2 ∧ save.state = state
  saved : Saved s first w
  well : ∀ (t : Nat) save point, w.1.threads[t]? = some (.writing save point) →
    save.autosave = true ∧ save.options.includeHistory = includeHistory ∧ point.succeeding = true

section Run

variable [StdSort] {config : RegistryConfig} {path : Bytes} {includeHistory : Bool} {s : State}
  {first : Option Bytes} {w w' : Durable × List DurableEffect} {d : Autosaved × List SaveEffect}
  {action : DurableAction}

omit [StdSort] in
/-- A thread that stays where it is, when a save is one step. -/
lemma Autosaved.setThread_self {w : Autosaved} {t : Nat} {point : SavePoint}
    (thread : w.threads[t]? = some point) : w.setThread t point = w := by
  obtain ⟨inside, here⟩ := List.getElem?_eq_some_iff.1 thread
  rw [setThread, ← here, List.set_getElem_self]

omit [StdSort] in
/-- Where a thread stands, when a save is one step. -/
lemma Durable.autosaved_thread {w : Durable} {t : Nat} {before : Saver}
    (thread : w.threads[t]? = some before) : w.autosaved.threads[t]? = some before.point := by
  rw [autosaved, List.getElem?_map, thread, Option.map_some]

/-- Where a thread stands in the saves in one step. -/
lemma Projected.stands (h : Projected includeHistory s first w d) {t : Nat} {before : Saver}
    (thread : w.1.threads[t]? = some before) : d.1.threads[t]? = some before.point := by
  rw [h.state]
  exact Durable.autosaved_thread thread

/-- A mutation is one in both (source `RegistryImpl::mutate`). -/
lemma Projected.mutate (h : Projected includeHistory s first w d) {t : Nat} {call : Call}
    {next : State} (thread : w.1.threads[t]? = some .idle)
    (committed : TransceiverRegistry.step config w.1.registry call = some next)
    (saved : Saved s first ({ w.1.setThread t (.committed next.generation) with
      registry := next }, w.2 ++ [.committed next])) :
    ∃ d', Autosaved.logged config includeHistory d (.mutate t call) = some d' ∧
      Projected includeHistory s first ({ w.1.setThread t (.committed next.generation) with
        registry := next }, w.2 ++ [.committed next]) d' := by
  have idle : (d.1.threads[t]?.any SavePoint.isIdle) = true := by
    rw [h.stands thread]
    rfl
  refine ⟨({ d.1.setThread t .committed with registry := next }, d.2 ++ [.committed call]),
    withHistory_eq_some.2 ⟨?_, rfl⟩, ?_, fun _ _ => ?_, fun state member => ?_, saved,
    fun u save point at_ => ?_⟩
  · rw [Autosaved.step, if_pos idle, h.state]
    exact congrArg (Option.map _) committed
  · simp only [h.state, Durable.autosaved, Durable.setThread, Autosaved.setThread, List.map_set,
      Saver.point]
  · exact ⟨call, List.mem_append_right _ List.mem_cons_self⟩
  · obtain before | now := List.mem_append.1 member
    · obtain ⟨save, renamed, same⟩ := h.saves state before
      exact ⟨save, List.mem_append_left _ renamed, same⟩
    · cases List.mem_singleton.1 now
  · obtain ⟨_, here⟩ | ⟨_, at_⟩ := setThread_eq_some thread at_
    · cases here
    · exact h.well u save point at_

/-- A thread goes on with its autosave (source `RegistryImpl::maybe_autosave`). -/
lemma Projected.goOn (h : Projected includeHistory s first w d) (logs : List SaveEffect) {t : Nat}
    {before after : Saver} {disk : Disk} {noted : Generation} {log : List DurableEffect}
    (thread : w.1.threads[t]? = some before)
    (saved : Saved s first ({ w.1.setThread t after with
      disk, autosaveGeneration := noted }, w.2 ++ log))
    (commits : ∀ state, .committed state ∉ log)
    (saves : ∀ state, .saved state ∈ logs → ∃ save, .renamed save ∈ log ∧ save.state = state)
    (well : ∀ save point, after = .writing save point → save.autosave = true ∧
      save.options.includeHistory = includeHistory ∧ point.succeeding = true) :
    Projected includeHistory s first ({ w.1.setThread t after with
        disk, autosaveGeneration := noted }, w.2 ++ log)
      ({ d.1.setThread t after.point with
        disk := disk.read .path, autosaveGeneration := noted }, d.2 ++ logs) where
  state := by
    simp only [h.state, Durable.autosaved, Durable.setThread, Autosaved.setThread, List.map_set]
  commits state member := by
    obtain earlier | now := List.mem_append.1 member
    · exact (h.commits state earlier).imp fun _ => List.mem_append_left _
    · exact absurd now (commits state)
  saves state member := by
    obtain earlier | now := List.mem_append.1 member
    · obtain ⟨save, renamed, same⟩ := h.saves state earlier
      exact ⟨save, List.mem_append_left _ renamed, same⟩
    · obtain ⟨save, renamed, same⟩ := saves state now
      exact ⟨save, List.mem_append_right _ renamed, same⟩
  saved := saved
  well u save point at_ := by
    obtain ⟨_, here⟩ | ⟨_, at_⟩ := setThread_eq_some thread at_
    · exact well save point here.symm
    · exact h.well u save point at_

/-- Every step of a save is a step of the saves in one step, or changes nothing there: a mutation, the
capture, the rename and the return are steps, the other calls are none. -/
lemma Projected.step (h : Projected includeHistory s first w d) (named : path ≠ [])
    (well : autosavesWell includeHistory w action = true)
    (taken : Durable.logged config path w action = some w') :
    ∃ d', Projected includeHistory s first w' d' ∧ (d' = d ∨ ∃ move,
      Autosaved.logged config includeHistory d move = some d' ∧
      (countersAdvance w action = true → renamesNewest w action = true →
        savesInOrder d move = true)) := by
  obtain ⟨well, only⟩ := Bool.and_eq_true_iff.1 well
  obtain ⟨succeeds, alone⟩ := Bool.and_eq_true_iff.1 well
  have saved := h.saved.step alone taken
  cases durableStep_of_logged taken with
  | @mutate t call next thread committed =>
    obtain ⟨d', moved, projected⟩ := h.mutate thread committed saved
    refine ⟨d', projected, .inr ⟨_, moved, fun room _ => ?_⟩⟩
    rw [savesInOrder, h.state]
    exact (Bool.and_eq_true_iff.1 room).2
  | @capture t options before save thread now under free =>
    obtain ⟨active, same⟩ := Bool.and_eq_true_iff.1 only
    rw [thread] at active
    -- an explicit save, from no call, is none of the autosaves
    obtain ⟨rfl, _⟩ | ⟨rfl, auto⟩ := free
    · cases active
    have entered : WritePoint.enter path save.file = .opening save.file := if_neg named
    rw [entered] at saved ⊢
    refine ⟨_, h.goOn [] thread saved (fun _ member => ?_) (fun _ member => ?_)
      fun _ _ e => ?_, .inr ⟨.save t, withHistory_eq_some.2 ⟨?_, ?_⟩, fun _ _ => ?_⟩⟩
    · cases List.mem_singleton.1 member
    · cases member
    · cases e
      exact ⟨auto, under ▸ of_decide_eq_true same, rfl⟩
    · have taken : d.1.saveStep includeHistory t = some (d.1.setThread t (.captured d.1.registry)) := by
        rw [Autosaved.saveStep, h.stands thread]
        rfl
      have captured : (Saver.writing save (.opening save.file)).point = .captured w.1.registry :=
        congrArg SavePoint.captured now
      rw [captured]
      exact taken.trans (by rw [h.state]; rfl)
    · rw [Autosaved.effect, h.stands thread]
      rfl
    · rw [savesInOrder, h.stands thread]
      rfl
  | @write t act save point disk point' log thread moved logs =>
    obtain ⟨auto, same, well⟩ := h.well t save point thread
    have after := (h.saved.ready t save point thread).2.step h.saved.sound moved
    have going := WritePoint.succeeding_step well succeeds moved
    have stands : d.1.threads[t]? = some (.captured save.state) :=
      (h.stands thread).trans (congrArg some (Saver.point_of_step moved))
    have continues : ∀ save' at_, Saver.writing save point' = .writing save' at_ →
        save'.autosave = true ∧ save'.options.includeHistory = includeHistory ∧
          at_.succeeding = true := by
      rintro _ _ e
      cases e
      exact ⟨auto, same, going⟩
    -- of all calls the saves in one step see the rename only
    by_cases returns : point' = .returned (.ok ())
    · obtain ⟨_, rfl⟩ | ⟨other, _⟩ := logs
      · obtain ⟨rfl, reads⟩ := after.saved returns
        refine ⟨_, h.goOn [.saved save.state] thread saved (fun _ member => ?_)
          (fun _ member => ?_) continues,
          .inr ⟨.save t, withHistory_eq_some.2 ⟨?_, ?_⟩, fun _ upTo => ?_⟩⟩
        · cases List.mem_singleton.1 member
        · cases List.mem_singleton.1 member
          exact ⟨save, List.mem_singleton_self _, rfl⟩
        · have taken : d.1.saveStep includeHistory t = some { d.1.setThread t .renamed with
              disk := some (snapshotFile save.state includeHistory) } := by
            rw [Autosaved.saveStep, stands]
          refine taken.trans (congrArg some ?_)
          rw [h.state, reads, returns, Save.file, same]
          rfl
        · rw [Autosaved.effect, stands]
        · simp only [renamesNewest, thread] at upTo
          simp only [savesInOrder, stands]
          refine List.all_eq_true.2 fun effect member => ?_
          cases effect with
          | committed call => rfl
          | saved state =>
            obtain ⟨earlier, renamed, rfl⟩ := h.saves state member
            exact List.all_eq_true.1 upTo _ renamed
      · exact absurd returns other
    · obtain ⟨other, _⟩ | ⟨_, rfl⟩ := logs
      · exact absurd other returns
      · have projected := h.goOn [] thread saved
          (fun _ member => (List.not_mem_nil member).elim)
          (fun _ member => (List.not_mem_nil member).elim) continues
        -- the thread is captured before and after, and the file at the path stays
        have stays : d = ({ d.1.setThread t (Saver.writing save point').point with
            disk := disk.read .path, autosaveGeneration := w.1.autosaveGeneration },
              d.2 ++ []) := by
          rw [Saver.point_of_open returns going, Autosaved.setThread_self stands, after.kept returns,
            List.append_nil, h.state]
          exact Prod.ext h.state rfl
        exact ⟨d, stays ▸ projected, .inl rfl⟩
  | @finish t save status noted log thread notes logs =>
    obtain ⟨auto, same, well⟩ := h.well t save _ thread
    -- a failed save would return without the note of its generation
    have ok : status = .ok () := by
      cases status with
      | ok => rfl
      | error => cases well
    subst ok
    rw [if_pos ⟨auto, rfl⟩] at notes
    obtain ⟨_, rfl⟩ | ⟨other, _⟩ := logs
    · refine ⟨_, h.goOn [] thread saved (fun _ member => ?_) (fun _ member => ?_)
        (fun _ _ e => ?_), .inr ⟨.save t, withHistory_eq_some.2 ⟨?_, ?_⟩, fun _ _ => ?_⟩⟩
      · cases List.mem_singleton.1 member
      · cases member
      · cases e
      · have taken : d.1.saveStep includeHistory t = some { d.1.setThread t .idle with
            autosaveGeneration := d.1.registry.generation } := by
          rw [Autosaved.saveStep, h.stands thread]
          rfl
        refine taken.trans (congrArg some ?_)
        rw [h.state, notes]
        rfl
      · rw [Autosaved.effect, h.stands thread]
        rfl
      · rw [savesInOrder, h.stands thread]
        rfl
    · exact absurd rfl other

/-- Before any step the threads are in no call. -/
lemma Projected.start {threads : Nat} {disk : Disk} (sound : disk.Sound) :
    Projected includeHistory s (disk.read .path) (Durable.start s threads disk, [])
      (Autosaved.start s threads (disk.read .path), []) where
  state := by
    rw [Durable.autosaved, Durable.start, List.map_replicate]
    rfl
  commits _ member := (List.not_mem_nil member).elim
  saves _ member := (List.not_mem_nil member).elim
  saved := .start sound
  well t _ _ atT := by cases Durable.start_idle atT

/-- While the calls of the autosaves succeed, and each opens the temporary file alone, a run of them is
a run of the saves in one step, with the same registry and the same file at the path (source
`RegistryImpl::maybe_autosave`, `write_file_atomically`). -/
theorem autosaved_of_durable {threads : Nat} {disk : Disk} (named : path ≠ []) (sound : disk.Sound)
    (reached : Run (Durable.logged config path)
      (fun w action => autosavesWell includeHistory w action = true)
      (Durable.start s threads disk, []) w) :
    ∃ effects, Run (Autosaved.logged config includeHistory) Unguarded
      (Autosaved.start s threads (disk.read .path), []) (w.1.autosaved, effects) := by
  have follows : ∃ d, Run (Autosaved.logged config includeHistory) Unguarded
      (Autosaved.start s threads (disk.read .path), []) d ∧
      Projected includeHistory s (disk.read .path) w d := by
    refine reached.simulate (.start sound) fun _ _ _ d h well taken => ?_
    obtain ⟨d', projected, rfl | ⟨move, moved, _⟩⟩ := h.step named well taken
    · exact ⟨_, .start, projected⟩
    · exact ⟨d', .next .start trivial moved, projected⟩
  obtain ⟨⟨d, effects⟩, run, projected⟩ := follows
  obtain rfl : d = w.1.autosaved := projected.state
  exact ⟨effects, run⟩

/-- When no counter wraps and no older state is renamed over a newer one besides, the file keeps up call
by call: whenever something was committed and every call has returned, it is the whole file of the state
of the registry (source `RegistryImpl::maybe_autosave`). -/
theorem autosaves_keep_up {threads : Nat} {disk : Disk} {state : State} (named : path ≠ [])
    (sound : disk.Sound)
    (reached : Run (Durable.logged config path)
      (fun w action => autosavesWell includeHistory w action = true ∧
        countersAdvance w action = true ∧ renamesNewest w action = true)
      (Durable.start s threads disk, []) w)
    (committed : .committed state ∈ w.2)
    (idle : w.1.threads.all (fun thread => thread.point.isIdle) = true) :
    w.1.disk.read .path = some (snapshotFile w.1.registry includeHistory) := by
  have follows : ∃ d, Run (Autosaved.logged config includeHistory)
      (fun d move => savesInOrder d move = true) (Autosaved.start s threads (disk.read .path), []) d ∧
      Projected includeHistory s (disk.read .path) w d := by
    refine reached.simulate (.start sound) fun _ _ _ d h ok taken => ?_
    obtain ⟨well, room, upTo⟩ := ok
    obtain ⟨d', projected, rfl | ⟨move, moved, inOrder⟩⟩ := h.step named well taken
    · exact ⟨_, .start, projected⟩
    · exact ⟨d', .next .start (inOrder room upTo) moved, projected⟩
  obtain ⟨⟨d, effects⟩, run, projected⟩ := follows
  obtain rfl : d = w.1.autosaved := projected.state
  obtain ⟨call, member⟩ := projected.commits state committed
  refine (saving_of_run run).keepsLatest call member ?_
  rw [Durable.autosaved, List.all_map]
  exact idle

end Run

end TransceiverRegistry

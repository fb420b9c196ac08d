import TransceiverRegistry.Lib.Threads
import TransceiverRegistry.Snapshot.Disk
import TransceiverRegistry.Snapshot.Knowledge

/-!
# Saves that survive a crash

The mutations, autosaves and saves of any number of threads, with every call of the system that a save
makes as a step of its own, which may fail. A process may end between any two steps; what it leaves is
the disk. All saves go to one path, so they share the temporary file next to it.
-/

namespace TransceiverRegistry

open Lib

/-- How a snapshot is saved (source `SaveOptions`). -/
structure SaveOptions where
  fsync : Bool := true
  includeHistory : Bool := true

/-- A save of a captured state, which is to hold what a generation knew (source
`save_snapshot_impl`). -/
structure Save where
  /-- The save of a mutation, under the options of the autosave. -/
  autosave : Bool
  generation : Generation
  state : State
  options : SaveOptions

/-- The whole file of a save (source `save_snapshot_impl`, `file`). -/
def Save.file [StdSort] (save : Save) : Bytes :=
  snapshotFile save.state save.options.includeHistory

/-- Where a thread stands in a mutation or in a save (source `RegistryImpl::mutate`,
`Registry::save`). -/
inductive Saver where
  /-- In no call. -/
  | idle
  /-- After the locked block of a mutation, which led to this generation. -/
  | committed (generation : Generation)
  | writing (save : Save) (point : WritePoint)

/-- The thread has opened the temporary file and not yet renamed or removed it. -/
def Saver.holds : Saver → Bool
  | .writing _ point => point.holds
  | _ => false

/-- The thread has captured a state and its write has not returned. -/
def Saver.saves : Saver → Bool
  | .writing _ (.returned _) => false
  | .writing _ _ => true
  | _ => false

/-- A registry that threads change and save, and the disk. -/
structure Durable where
  registry : State
  threads : List Saver
  disk : Disk
  autosaveGeneration : Generation

/-- A step of one of the threads. -/
inductive DurableAction where
  /-- A mutation that succeeds (source `RegistryImpl::mutate`, the locked block). -/
  | mutate (t : Nat) (call : Call)
  /-- The state is captured for a save, an explicit one or that of the mutation before (source
  `save_snapshot_impl`, `impl.current`). -/
  | capture (t : Nat) (options : SaveOptions)
  /-- The next call of the save (source `write_file_atomically`). -/
  | write (t : Nat) (action : WriteAction)
  /-- The save returns to the caller (source `RegistryImpl::maybe_autosave`, `Registry::save`). -/
  | finish (t : Nat)

/-- No call of the system fails in the step. -/
def DurableAction.succeeds : DurableAction → Bool
  | .write _ action => action.succeeds
  | _ => true

/-- What a step did. -/
inductive DurableEffect where
  | committed (state : State)
  | captured (save : Save)
  | renamed (save : Save)
  /-- A save has succeeded. -/
  | acknowledged (save : Save)

/-- Any number of threads in no call. -/
def Durable.start (s : State) (threads : Nat) (disk : Disk) : Durable where
  registry := s
  threads := List.replicate threads .idle
  disk
  autosaveGeneration := 0

/-- Put a thread at a point. -/
def Durable.setThread (w : Durable) (t : Nat) (point : Saver) : Durable :=
  { w with threads := w.threads.set t point }

/-- What a step did, from the state it was taken in and the one it led to. -/
def Durable.effect (w : Durable) (action : DurableAction) (w' : Durable) : List DurableEffect :=
  match action with
  | .mutate _ _ => [.committed w'.registry]
  | .capture t _ => match w'.threads[t]? with
    | some (.writing save _) => [.captured save]
    | _ => []
  | .write t _ => match w'.threads[t]? with
    | some (.writing save (.returned (.ok _))) => [.renamed save]
    | _ => []
  | .finish t => match w.threads[t]? with
    | some (.writing save (.returned (.ok _))) => [.acknowledged save]
    | _ => []

/-- No other save has the temporary file open when one opens it. -/
def savesAlone (w : Durable × List DurableEffect) : DurableAction → Bool
  | .write _ (.opened true) => w.1.threads.all fun thread => !thread.holds
  | _ => true

section Steps

variable [StdSort]

/-- The steps of the threads, in any order; all saves go to one path. -/
def Durable.step (config : RegistryConfig) (path : Bytes) (w : Durable) :
    DurableAction → Option Durable
  | .mutate t call => match w.threads[t]? with
    | some .idle => (TransceiverRegistry.step config w.registry call).map fun s =>
      { w.setThread t (.committed s.generation) with registry := s }
    | _ => none
  | .capture t options =>
    let capture (autosave : Bool) (generation : Generation) : Durable :=
      let save : Save := ⟨autosave, generation, w.registry, options⟩
      w.setThread t (.writing save (.enter path save.file))
    match w.threads[t]? with
    -- `Registry::save`, on its own
    | some .idle => some (capture false w.registry.generation)
    -- `maybe_autosave`, after the locked block of the mutation
    | some (.committed generation) => some (capture true generation)
    | _ => none
  | .write t action => match w.threads[t]? with
    | some (.writing save point) =>
      (point.step path save.options.fsync w.disk action).map fun (disk, point) =>
        { w.setThread t (.writing save point) with disk }
    | _ => none
  | .finish t => match w.threads[t]? with
    -- only a successful autosave notes the generation, the one the registry has by now
    | some (.writing save (.returned status)) => some { w.setThread t .idle with
        autosaveGeneration :=
          if save.autosave ∧ status = .ok () then w.registry.generation else w.autosaveGeneration }
    | _ => none

/-- The threads, and what their steps did. -/
def Durable.logged (config : RegistryConfig) (path : Bytes) :
    Durable × List DurableEffect → DurableAction → Option (Durable × List DurableEffect) :=
  withHistory (Durable.step config path) Durable.effect

/-- What a step of a thread does. -/
inductive DurableStep (config : RegistryConfig) (path : Bytes)
    (w : Durable × List DurableEffect) : DurableAction → Durable × List DurableEffect → Prop where
  | mutate {t call s} (thread : w.1.threads[t]? = some .idle)
      (taken : TransceiverRegistry.step config w.1.registry call = some s) :
      DurableStep config path w (.mutate t call)
        ({ w.1.setThread t (.committed s.generation) with registry := s }, w.2 ++ [.committed s])
  | capture {t options before} {save : Save} (thread : w.1.threads[t]? = some before)
      (now : save.state = w.1.registry) (under : save.options = options)
      (free : (before = .idle ∧ save.autosave = false ∧
          save.generation = w.1.registry.generation) ∨
        (before = .committed save.generation ∧ save.autosave = true)) :
      DurableStep config path w (.capture t options)
        (w.1.setThread t (.writing save (.enter path save.file)), w.2 ++ [.captured save])
  | write {t action save point disk point' log}
      (thread : w.1.threads[t]? = some (.writing save point))
      (moved : point.step path save.options.fsync w.1.disk action = some (disk, point'))
      (logs : (point' = .returned (.ok ()) ∧ log = [.renamed save]) ∨
        (point' ≠ .returned (.ok ()) ∧ log = [])) :
      DurableStep config path w (.write t action)
        ({ w.1.setThread t (.writing save point') with disk }, w.2 ++ log)
  | finish {t save status noted log}
      (thread : w.1.threads[t]? = some (.writing save (.returned status)))
      (notes : noted = if save.autosave ∧ status = .ok () then w.1.registry.generation
        else w.1.autosaveGeneration)
      (logs : (status = .ok () ∧ log = [.acknowledged save]) ∨ (status ≠ .ok () ∧ log = [])) :
      DurableStep config path w (.finish t)
        ({ w.1.setThread t .idle with autosaveGeneration := noted }, w.2 ++ log)

variable {config : RegistryConfig} {path : Bytes} {w w' : Durable × List DurableEffect}
  {action : DurableAction}

/-- What a step of the threads did (source `RegistryImpl::mutate`, `save_snapshot_impl`). -/
lemma durableStep_of_logged (taken : Durable.logged config path w action = some w') :
    DurableStep config path w action w' := by
  obtain ⟨moved, log⟩ := withHistory_eq_some.1 taken
  obtain ⟨d, effects⟩ := w'
  obtain rfl : effects = w.2 ++ w.1.effect action d := log
  -- the thread is where it was put
  have put (after : Saver) {t : Nat} {before : Saver} (thread : w.1.threads[t]? = some before) :
      (w.1.setThread t after).threads[t]? = some after :=
    (getElem?_set_of_getElem? thread).trans (if_pos rfl)
  cases action with
  | mutate t call =>
    rw [Durable.step] at moved
    split at moved
    · rename_i idle
      obtain ⟨s, committed, rfl⟩ := Option.map_eq_some_iff.1 moved
      exact .mutate idle committed
    · cases moved
  | capture t options =>
    have logs (save : Save) {before : Saver} (thread : w.1.threads[t]? = some before) :
        w.1.effect (.capture t options) (w.1.setThread t (.writing save (.enter path save.file))) =
          [.captured save] := by
      rw [Durable.effect, put _ thread]
    rw [Durable.step] at moved
    split at moved
    · rename_i idle
      obtain rfl := Option.some.inj moved
      rw [logs ⟨false, w.1.registry.generation, w.1.registry, options⟩ idle]
      exact .capture idle rfl rfl (.inl ⟨rfl, rfl, rfl⟩)
    · rename_i generation committed
      obtain rfl := Option.some.inj moved
      rw [logs ⟨true, generation, w.1.registry, options⟩ committed]
      exact .capture committed rfl rfl (.inr ⟨rfl, rfl⟩)
    · cases moved
  | write t action =>
    rw [Durable.step] at moved
    split at moved
    · rename_i save point writing
      obtain ⟨⟨disk, point'⟩, called, rfl⟩ := Option.map_eq_some_iff.1 moved
      refine .write writing called ?_
      have after := put (.writing save point') writing
      simp only [Durable.effect, after]
      cases point' with
      | returned status =>
        cases status with
        | ok => exact .inl ⟨rfl, rfl⟩
        | error => exact .inr ⟨nofun, rfl⟩
      | _ => exact .inr ⟨nofun, rfl⟩
    · cases moved
  | finish t =>
    rw [Durable.step] at moved
    split at moved
    · rename_i save status returned
      cases moved
      refine .finish returned rfl ?_
      rw [Durable.effect, returned]
      cases status with
      | ok => exact .inl ⟨rfl, rfl⟩
      | error => exact .inr ⟨nofun, rfl⟩
    · cases moved

/-- The registry had this state: it was the first one, or a mutation led to it. -/
def Known (s : State) (log : List DurableEffect) (state : State) : Prop :=
  state = s ∨ .committed state ∈ log

/-- A save is under way or was: it has captured a state that the registry had. -/
structure Captured (s : State) (log : List DurableEffect) (save : Save) : Prop where
  known : Known s log save.state
  logged : .captured save ∈ log

/-- Every write is on its way alone, and the file at the path is the one that was there first, or the
whole file of a save. -/
structure Saved (s : State) (first : Option Bytes) (w : Durable × List DurableEffect) : Prop where
  sound : w.1.disk.Sound
  alone : ∀ (t u : Nat) x y, w.1.threads[t]? = some x → w.1.threads[u]? = some y →
    x.holds = true → y.holds = true → t = u
  ready : ∀ (t : Nat) save point, w.1.threads[t]? = some (.writing save point) →
    Captured s w.2 save ∧ point.Ready w.1.disk save.file
  registry : Known s w.2 w.1.registry
  path : w.1.disk.read .path = first ∨ ∃ save, Captured s w.2 save ∧
    w.1.disk.read .path = some save.file

variable {s state : State} {first : Option Bytes} {log : List DurableEffect} {save : Save}

omit [StdSort] in
/-- A state that was known is known later. -/
lemma Known.append (known : Known s log state) (more : List DurableEffect) :
    Known s (log ++ more) state :=
  known.imp_right (List.mem_append_left _)

omit [StdSort] in
/-- A save that has captured a state has captured it later. -/
lemma Captured.append (captured : Captured s log save) (more : List DurableEffect) :
    Captured s (log ++ more) save :=
  ⟨captured.known.append more, List.mem_append_left _ captured.logged⟩

omit [StdSort] in
/-- A thread is at the point it was put at, or where it was. -/
lemma setThread_eq_some {d : Durable} {t u : Nat} {point before x : Saver}
    (thread : d.threads[t]? = some before) (after : (d.setThread t point).threads[u]? = some x) :
    (t = u ∧ x = point) ∨ (t ≠ u ∧ d.threads[u]? = some x) := by
  have after := (getElem?_set_of_getElem? thread).symm.trans after
  split at after
  · exact .inl ⟨‹_›, (Option.some.inj after).symm⟩
  · exact .inr ⟨‹_›, after⟩

/-- A thread goes to a point at which it does not hold the temporary file, and the disk stays. -/
lemma Saved.free (h : Saved s first w) {t : Nat} {before point : Saver} {noted : Generation}
    (thread : w.1.threads[t]? = some before) (free : point.holds = false)
    (registry : Known s (w.2 ++ log) state)
    (ready : ∀ save point', point = .writing save point' →
      Captured s (w.2 ++ log) save ∧ point'.Ready w.1.disk save.file) :
    Saved s first ({ w.1.setThread t point with
      registry := state, autosaveGeneration := noted }, w.2 ++ log) where
  sound := h.sound
  alone u v x y atU atV holdsU holdsV := by
    obtain ⟨_, rfl⟩ | ⟨_, atU⟩ := setThread_eq_some thread atU
    · rw [free] at holdsU
      cases holdsU
    · obtain ⟨_, rfl⟩ | ⟨_, atV⟩ := setThread_eq_some thread atV
      · rw [free] at holdsV
        cases holdsV
      · exact h.alone u v x y atU atV holdsU holdsV
  ready u save point' atU := by
    obtain ⟨_, here⟩ | ⟨_, atU⟩ := setThread_eq_some thread atU
    · exact ready save point' here.symm
    · exact (h.ready u save point' atU).imp_left (·.append log)
  registry := registry
  path := h.path.imp_right fun ⟨save, captured, holds⟩ => ⟨save, captured.append log, holds⟩

/-- A call of a save keeps the saves (source `write_file_atomically`). -/
lemma Saved.write (h : Saved s first w) {t : Nat} {act : WriteAction} {point point' : WritePoint}
    {disk : Disk} (thread : w.1.threads[t]? = some (.writing save point))
    (alone : savesAlone w (.write t act) = true)
    (moved : point.step path save.options.fsync w.1.disk act = some (disk, point')) :
    Saved s first ({ w.1.setThread t (.writing save point') with disk }, w.2 ++ log) := by
  obtain ⟨captured, ready⟩ := h.ready t save point thread
  have after := ready.step h.sound moved
  -- either no other thread holds the temporary file, or the disk stays
  have others : (∀ (u : Nat) x, u ≠ t → w.1.threads[u]? = some x → x.holds = false) ∨
      (disk = w.1.disk ∧ point'.holds = false) := by
    cases holds : point.holds with
    | true =>
      refine .inl fun u x differ atU => Bool.eq_false_iff.2 fun holdsU => differ ?_
      exact h.alone u t x _ atU thread holdsU holds
    | false =>
      obtain rfl | stays := WritePoint.step_free holds moved
      · refine .inl fun u x _ atU => ?_
        have free := List.all_eq_true.1 alone x (List.mem_of_getElem? atU)
        exact (Bool.not_eq_true' _).mp free
      · exact .inr stays
  refine ⟨after.sound, fun u v x y atU atV holdsU holdsV => ?_, fun u save' point'' atU => ?_,
    h.registry.append log, ?_⟩
  · obtain ⟨here, rfl⟩ | ⟨differ, atU⟩ := setThread_eq_some thread atU <;>
      obtain ⟨here', rfl⟩ | ⟨differ', atV⟩ := setThread_eq_some thread atV
    · exact here.symm.trans here'
    · obtain free | ⟨_, free⟩ := others
      · rw [free v y (Ne.symm differ') atV] at holdsV
        cases holdsV
      · exact absurd holdsU (Bool.eq_false_iff.1 free)
    · obtain free | ⟨_, free⟩ := others
      · rw [free u x (Ne.symm differ) atU] at holdsU
        cases holdsU
      · exact absurd holdsV (Bool.eq_false_iff.1 free)
    · exact h.alone u v x y atU atV holdsU holdsV
  · obtain ⟨_, here⟩ | ⟨differ, atU⟩ := setThread_eq_some thread atU
    · cases here
      exact ⟨captured.append log, after.ready⟩
    · obtain ⟨captured', ready'⟩ := h.ready u _ _ atU
      refine ⟨captured'.append log, ?_⟩
      obtain free | ⟨same, _⟩ := others
      · exact ready'.congr (free u _ (Ne.symm differ) atU)
      · exact same ▸ ready'
  · by_cases saved : point' = .returned (.ok ())
    · exact .inr ⟨save, captured.append log, (after.saved saved).2⟩
    · rw [after.kept saved]
      exact h.path.imp_right fun ⟨save, captured, holds⟩ => ⟨save, captured.append log, holds⟩

/-- Every step keeps the saves, when a save opens the temporary file alone. -/
lemma Saved.step (h : Saved s first w) (alone : savesAlone w action = true)
    (taken : Durable.logged config path w action = some w') : Saved s first w' := by
  cases durableStep_of_logged taken with
  | @mutate t call next thread committed =>
    exact h.free thread rfl (.inr (List.mem_append_right _ List.mem_cons_self)) nofun
  | @capture t options before save thread now under free =>
    have known : Known s (w.2 ++ [.captured save]) save.state := now ▸ h.registry.append _
    have entered := @WritePoint.ready_enter path save.file w.1.disk
    refine h.free thread entered.2 (h.registry.append _) fun _ _ e => ?_
    cases e
    exact ⟨⟨known, List.mem_append_right _ List.mem_cons_self⟩, entered.1⟩
  | write thread moved logs => exact h.write thread alone moved
  | finish thread notes logs => exact h.free thread rfl (h.registry.append _) nofun

omit [StdSort] in
/-- Before any step every thread is in no call. -/
lemma Durable.start_idle {threads t : Nat} {disk : Disk} {x : Saver}
    (at_ : (Durable.start s threads disk).threads[t]? = some x) : x = .idle :=
  List.eq_of_mem_replicate (List.mem_of_getElem? at_)

/-- Before any step nothing is saved. -/
lemma Saved.start {threads : Nat} {disk : Disk} (sound : disk.Sound) :
    Saved s (disk.read .path) (Durable.start s threads disk, []) where
  sound := sound
  alone t u x y atT _ holds _ := by
    rw [Durable.start_idle atT] at holds
    cases holds
  ready t _ _ atT := by cases Durable.start_idle atT
  registry := .inl rfl
  path := .inl rfl

end Steps

/-- The path of the saves below. -/
def benchPath : Bytes := text "registry.snap"

/-- No file yet. -/
def blankDisk : Disk := ⟨fun _ => none, []⟩

/-- On a disk without files no two names share one. -/
lemma blankDisk_sound : blankDisk.Sound := ⟨nofun, nofun⟩

example : ((blankDisk.truncate .temporary).1.rename .temporary .path).bind (·.read .path) =
    some [] := by decide +kernel

/-- A source is registered and saved; it is registered once more, and the second save begins. -/
def savesOnce : List DurableAction :=
  [.mutate 0 registerHost, .capture 0 {}, .write 0 (.opened true), .write 0 (.flushed 300),
    .write 0 (.wrote true), .write 0 (.synced true), .write 0 (.flushed 84),
    .write 0 (.closed true), .write 0 (.renamed true), .finish 0,
    .mutate 0 registerHost, .capture 0 {}, .write 0 (.opened true),
    .write 0 (.flushed 10)]

/-- A write and the disk, one call after the other (source `write_file_atomically`). -/
def WritePoint.calls (path : Bytes) (fsync : Bool) (d : Disk × WritePoint) (action : WriteAction) :
    Option (Disk × WritePoint) :=
  d.2.step path fsync d.1 action

/-- Every call of the system succeeds. -/
def NoneFails {σ : Type} : σ → DurableAction → Prop := fun _ action => action.succeeds = true

section Overlap

variable [StdSort] {config : RegistryConfig} {path : Bytes} {fsync : Bool} {save : Save}
  {w : Durable × List DurableEffect} {s : State} {disk : Disk} {d : Disk × WritePoint}
  {t file count : Nat} {point : WritePoint} {bytes : Bytes}

/-- The calls of a save that succeed and do not end it are steps of its thread. -/
lemma Durable.run_calls (thread : w.1.threads[t]? = some (.writing save point))
    (calls : Run (WritePoint.calls path save.options.fsync) (fun _ action => action.succeeds = true)
      (w.1.disk, point) d) (goesOn : ∀ status, d.2 ≠ .returned status) :
    Run (Durable.logged config path) NoneFails w
      ({ w.1.setThread t (.writing save d.2) with disk := d.1 }, w.2) := by
  induction calls with
  | start =>
    have same : ({ w.1.setThread t (.writing save point) with disk := w.1.disk }, w.2) = w := by
      obtain ⟨inside, here⟩ := List.getElem?_eq_some_iff.1 thread
      rw [Durable.setThread, ← here, List.set_getElem_self]
    exact (congrArg (Run _ _ w) same).mpr .start
  | next _ succeeds moved ih =>
    rename_i before action after _
    have free : ∀ status, before.2 ≠ .returned status := by
      intro status same
      rw [WritePoint.calls, same] at moved
      cases moved
    have put (point : WritePoint) :
        (w.1.setThread t (.writing save point)).threads[t]? = some (.writing save point) :=
      (getElem?_set_of_getElem? thread).trans (if_pos rfl)
    have moved : before.2.step path save.options.fsync before.1 action = some after := moved
    refine (ih free).next (a := DurableAction.write t action) succeeds (withHistory_eq_some.2 ⟨?_, ?_⟩)
    · rw [Durable.step]
      simp only [put, moved, Option.map_some, Option.some.injEq]
      simp [setThread]
    · simp only [Durable.effect, put]
      obtain ⟨disk, point'⟩ := after
      cases point' with
      | returned status => exact absurd rfl (goesOn status)
      | _ => rw [List.append_nil]

omit [StdSort] in
variable (path fsync) in
/-- A save can open the temporary file and write a first part of what it saves. -/
lemma WritePoint.open_and_flush (sound : disk.Sound) (positive : 0 < count)
    (short : count ≤ bytes.length) :
    ∃ disk' file, Run (WritePoint.calls path fsync) (fun _ action => action.succeeds = true)
        (disk, .opening bytes) (disk', .writing ⟨file, bytes, count⟩) ∧
      disk'.Sound ∧ disk'.Holds .temporary file (bytes.take count) := by
  obtain ⟨opened, empty, _⟩ := sound.truncate .temporary
  obtain ⟨written, holds, _⟩ := opened.append empty (bytes.take count)
  refine ⟨_, _, .next (a := WriteAction.flushed count)
    (.next (a := WriteAction.opened true) .start rfl rfl) rfl ?_, written, holds⟩
  simp [calls, WritePoint.step, OutStream.flush, positive, short]

omit [StdSort] in
/-- A save that has written everything can close the temporary file. -/
lemma WritePoint.close_whole :
    Run (WritePoint.calls path fsync) (fun _ action => action.succeeds = true)
      (disk, .writing ⟨file, bytes, bytes.length⟩) (disk, .renaming bytes) := by
  have closes : runGuarded (WritePoint.calls path fsync) (fun _ action => action.succeeds)
      (.wrote true :: (if fsync then [.synced true] else []) ++ [.closed true])
      (disk, .writing ⟨file, bytes, bytes.length⟩) = some (disk, .renaming bytes) := by
    cases fsync <;>
      simp [runGuarded, calls, WritePoint.step, OutStream.written, WriteAction.succeeds]
  exact .ofGuarded closes

/-- Two saves of one state to a path that overlap can leave any first part of its file there, although
every call of the system succeeds and one of the saves is acknowledged: the second save empties the
temporary file that the first one has written and renames (source `write_file_atomically`,
`temporary`). -/
theorem overlapping_saves_tear (named : path ≠ []) (sound : disk.Sound) (options : SaveOptions)
    (positive : 0 < count) (short : count ≤ (snapshotFile s options.includeHistory).length) :
    ∃ w save, Run (Durable.logged config path) NoneFails (Durable.start s 2 disk, []) w ∧
      .acknowledged save ∈ w.2 ∧ save.state = s ∧ save.options = options ∧
      w.1.disk.read .path = some ((snapshotFile s options.includeHistory).take count) := by
  let save : Save := ⟨false, s.generation, s, options⟩
  generalize content : snapshotFile s options.includeHistory = bytes at short
  obtain ⟨disk₁, file₁, first, sound₁, _⟩ := WritePoint.open_and_flush path options.fsync sound
    (Nat.lt_of_lt_of_le positive short) le_rfl
  obtain ⟨disk₂, file₂, second, sound₂, holds⟩ :=
    WritePoint.open_and_flush path options.fsync sound₁ positive short
  have enters : WritePoint.enter path save.file = .opening bytes := by
    rw [WritePoint.enter, if_neg named, Save.file, content]
  have captured : Run (Durable.logged config path) NoneFails (Durable.start s 2 disk, [])
      (⟨s, [.writing save (.opening bytes), .writing save (.opening bytes)], disk, 0⟩,
        [.captured save, .captured save]) := by
    rw [← enters]
    exact .next (a := DurableAction.capture 1 options)
      (.next (a := DurableAction.capture 0 options) .start rfl rfl) rfl rfl
  have written : Run (Durable.logged config path) NoneFails (Durable.start s 2 disk, [])
      (⟨s, [.writing save (.renaming bytes), .writing save (.opening bytes)], disk₁, 0⟩,
        [.captured save, .captured save]) :=
    captured.trans (Durable.run_calls (t := 0) (d := (disk₁, .renaming bytes)) rfl
      (first.trans WritePoint.close_whole) nofun)
  have emptied : Run (Durable.logged config path) NoneFails (Durable.start s 2 disk, [])
      (⟨s, [.writing save (.renaming bytes),
        .writing save (.writing ⟨file₂, bytes, count⟩)], disk₂, 0⟩,
        [.captured save, .captured save]) :=
    written.trans (Durable.run_calls (t := 1) (d := (disk₂, .writing ⟨file₂, bytes, count⟩))
      rfl second nofun)
  obtain ⟨disk₃, renamed⟩ : ∃ disk₃, disk₂.rename .temporary .path = some disk₃ :=
    ⟨_, congrArg (Option.map _) holds.leads⟩
  have put : Durable.logged config path (⟨s, [.writing save (.renaming bytes),
      .writing save (.writing ⟨file₂, bytes, count⟩)], disk₂, 0⟩, [.captured save, .captured save])
      (.write 0 (.renamed true)) = some (⟨s, [.writing save (.returned (.ok ())),
        .writing save (.writing ⟨file₂, bytes, count⟩)], disk₃, 0⟩,
        [.captured save, .captured save, .renamed save]) := by
    refine withHistory_eq_some.2 ⟨?_, rfl⟩
    simp [Durable.step, WritePoint.step, renamed, Durable.setThread]
  refine ⟨_, save, (emptied.next (a := DurableAction.write 0 (.renamed true)) rfl put).next
    (a := DurableAction.finish 0) rfl rfl, ?_, rfl, rfl, ?_⟩
  · exact List.mem_append_right _ List.mem_cons_self
  · exact (sound₂.rename renamed).2.trans holds.read

end Overlap

/-- One byte of the file of an empty registry is all that a restart finds. -/
theorem overlapping_saves_tear_byte : ∃ w save,
    Run (Durable.logged {} benchPath) NoneFails (Durable.start .initial 2 blankDisk, []) w ∧
      .acknowledged save ∈ w.2 ∧ save.state = .initial ∧ save.options = {} ∧
      w.1.disk.read .path = some ((snapshotFile .initial true).take 1) :=
  overlapping_saves_tear (by decide) blankDisk_sound {} Nat.one_pos (by decide +kernel)

end TransceiverRegistry

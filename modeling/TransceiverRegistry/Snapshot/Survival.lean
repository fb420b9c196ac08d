import TransceiverRegistry.Snapshot.Durable

/-!
# Acknowledged updates survive a crash

When saves take turns, the file at the path is at least as new as every save that has succeeded. A
process that ends leaves a file of which the next one learns everything that a successful save was to
hold.
-/

namespace TransceiverRegistry

open Lib

section Load

variable [StdSort] {clock : Clock} {options : LoadOptions} {path content : Bytes} {s s' : State}

/-- Load the file at a path, which may be absent and may fail to be read after some bytes (source
`load_snapshot`, with `read_file`). -/
def loadFile (clock : Clock) (options : LoadOptions) (path : Bytes) (file : Option Bytes)
    (cut : Option Nat) (s : State) : Result (State × LoadReport) := do
  refuseIf (s.isEmpty = false)
    (makeError .conflict "a snapshot can only be loaded into an empty registry")
  let bytes ← readFile path file cut
  let parsed ← parseSnapshot bytes options
  let now := clock.wallNowNs 0
  let loaded := parsed.state.restore now
  .ok (loaded, loadReport parsed now loaded)

/-- A file that is loaded was read as it is (source `load_snapshot`, `read_file`). -/
lemma loadSnapshot_of_loadFile {cut : Option Nat} {report : LoadReport}
    (loaded : loadFile clock options path (some content) cut s = .ok (s', report)) :
    loadSnapshot clock options content s = .ok (s', report) := by
  rw [loadFile, refuseIf_bind_eq_ok] at loaded
  obtain ⟨empty, reads⟩ := loaded
  obtain ⟨bytes, read, parses⟩ := bind_eq_ok.1 reads
  have whole : content.length ≤ kMaxSnapshotBytes ∧ bytes = content := by
    cases cut with
    | none =>
      rw [readFile_eq] at read
      split at read
      · cases read
      · rename_i small
        cases read
        exact ⟨Nat.not_lt.1 small, rfl⟩
    | some count =>
      have read : readChunks true (content.take count) [] = .ok bytes := read
      rw [readChunks_eq true _ [] (Nat.zero_le _)] at read
      split at read <;> cases read
  obtain ⟨small, rfl⟩ := whole
  rw [loadSnapshot, refuseIf_bind_eq_ok, refuseIf_bind_eq_ok]
  exact ⟨empty, Nat.not_lt.2 small, parses⟩

end Load

/-- A mutation has a next generation and a next sequence number. -/
def countersAdvance (w : Durable × List DurableEffect) : DurableAction → Bool
  | .mutate _ _ => advances w.1.registry
  | _ => true

/-- The file that is put at the path was taken of this generation or of an earlier one. -/
def DurableEffect.isUpTo (generation : Generation) : DurableEffect → Bool
  | .renamed save => save.state.generation ≤ generation
  | _ => true

/-- A save renames its file over that of no newer state. -/
def renamesNewest (w : Durable × List DurableEffect) : DurableAction → Bool
  | .write t (.renamed true) => match w.1.threads[t]? with
    | some (.writing save _) => w.2.all (DurableEffect.isUpTo save.state.generation)
    | _ => true
  | _ => true

/-- No save is under way when one captures a state. -/
def savesApart (w : Durable × List DurableEffect) : DurableAction → Bool
  | .capture _ _ => w.1.threads.all fun thread => !thread.saves
  | _ => true

/-- A save opens the temporary file alone and renames it over that of no newer state. -/
def savesInTurn (w : Durable × List DurableEffect) (action : DurableAction) : Bool :=
  savesAlone w action && renamesNewest w action

/-- Successful saves are in the file at the path, and the registry has what a restart needs. -/
structure Lasting [StdSort] (s : State) (w : Durable × List DurableEffect) : Prop where
  committed : ∀ (t : Nat) generation, w.1.threads[t]? = some (.committed generation) →
    generation ≤ w.1.registry.generation
  captured : ∀ (t : Nat) save point, w.1.threads[t]? = some (.writing save point) →
    save.generation ≤ save.state.generation ∧ (point = .returned (.ok ()) → .renamed save ∈ w.2)
  acknowledged : ∀ save, .acknowledged save ∈ w.2 →
    .renamed save ∈ w.2 ∧ save.generation ≤ save.state.generation
  newest : ∀ earlier, .renamed earlier ∈ w.2 → ∃ latest : Save, Known s w.2 latest.state ∧
    w.1.disk.read .path = some latest.file ∧
    ∀ earlier, .renamed earlier ∈ w.2 → earlier.state.generation ≤ latest.state.generation
  restartable : ∀ state, Known s w.2 state → Restartable state

section Run

variable [StdSort] {config : RegistryConfig} {path : Bytes} {w w' : Durable × List DurableEffect}
  {action : DurableAction} {s state : State} {first : Option Bytes} {log : List DurableEffect}
  {save : Save}

/-- A thread that goes to a point keeps what has been saved: either nothing is renamed and the file at
the path stays, or it is that of a save that is as new as every one before it. -/
lemma Lasting.put (h : Lasting s w) {t : Nat} {before point : Saver} {disk : Disk}
    {noted : Generation} (thread : w.1.threads[t]? = some before)
    (later : w.1.registry.generation ≤ state.generation)
    (committed : ∀ generation, point = .committed generation → generation ≤ state.generation)
    (captured : ∀ save at_, point = .writing save at_ → save.generation ≤ save.state.generation ∧
      (at_ = .returned (.ok ()) → .renamed save ∈ w.2 ++ log))
    (acknowledged : ∀ save, .acknowledged save ∈ log →
      .renamed save ∈ w.2 ∧ save.generation ≤ save.state.generation)
    (restartable : ∀ state, .committed state ∈ log → Restartable state)
    (newest : (disk.read .path = w.1.disk.read .path ∧ ∀ save, .renamed save ∉ log) ∨
      ∃ save, log = [.renamed save] ∧ Known s w.2 save.state ∧ disk.read .path = some save.file ∧
        ∀ earlier, .renamed earlier ∈ w.2 → earlier.state.generation ≤ save.state.generation) :
    Lasting s ({ w.1.setThread t point with
      registry := state, disk, autosaveGeneration := noted }, w.2 ++ log) where
  committed u generation atU := by
    obtain ⟨_, here⟩ | ⟨_, before⟩ := setThread_eq_some thread atU
    · exact committed generation here.symm
    · exact UInt64.le_trans (h.committed u generation before) later
  captured u save at_ atU := by
    obtain ⟨_, here⟩ | ⟨_, before⟩ := setThread_eq_some thread atU
    · exact captured save at_ here.symm
    · exact (h.captured u save at_ before).imp_right fun saved returned =>
        List.mem_append_left _ (saved returned)
  acknowledged save member := by
    obtain before | now := List.mem_append.1 member
    · exact (h.acknowledged save before).imp_left (List.mem_append_left _)
    · exact (acknowledged save now).imp_left (List.mem_append_left _)
  newest earlier member := by
    obtain ⟨stays, quiet⟩ | ⟨save, rfl, known, reads, upTo⟩ := newest
    · have old {earlier : Save} (member : .renamed earlier ∈ w.2 ++ log) : .renamed earlier ∈ w.2 :=
        (List.mem_append.1 member).resolve_right (quiet earlier)
      obtain ⟨latest, known, holds, newest⟩ := h.newest earlier (old member)
      exact ⟨latest, known.append _, stays.trans holds, fun earlier member =>
        newest earlier (old member)⟩
    · refine ⟨save, known.append _, reads, fun earlier member => ?_⟩
      obtain before | now := List.mem_append.1 member
      · exact upTo earlier before
      · cases List.mem_singleton.1 now
        exact UInt64.le_refl _
  restartable state known := by
    obtain first | committed := known
    · exact h.restartable state (.inl first)
    · obtain before | now := List.mem_append.1 committed
      · exact h.restartable state (.inr before)
      · exact restartable state now

/-- A mutation keeps what has been saved (source `RegistryImpl::mutate`). -/
lemma Lasting.mutate (h : Lasting s w) {t : Nat} {call : Call}
    (known : Known s w.2 w.1.registry) (thread : w.1.threads[t]? = some .idle)
    (room : advances w.1.registry = true)
    (taken : TransceiverRegistry.step config w.1.registry call = some state) :
    Lasting s ({ w.1.setThread t (.committed state.generation) with registry := state },
      w.2 ++ [.committed state]) := by
  have last := of_decide_eq_true (Bool.and_eq_true_iff.1 room).2
  have later := UInt64.le_of_lt (generation_lt_of_step last taken)
  refine h.put thread later (fun _ e => ?_) (fun _ _ e => ?_) (fun _ member => ?_)
    (fun _ member => ?_) (.inl ⟨rfl, fun _ member => ?_⟩)
  · cases e
    exact UInt64.le_refl _
  · cases e
  · cases List.mem_singleton.1 member
  · cases List.mem_singleton.1 member
    exact (h.restartable _ known).step room taken
  · cases List.mem_singleton.1 member

/-- The state is captured for a save (source `save_snapshot_impl`). -/
lemma Lasting.capture (h : Lasting s w) {t : Nat} {before : Saver}
    (thread : w.1.threads[t]? = some before) (now : save.state = w.1.registry)
    (free : (before = .idle ∧ save.autosave = false ∧ save.generation = w.1.registry.generation) ∨
      (before = .committed save.generation ∧ save.autosave = true)) :
    Lasting s (w.1.setThread t (.writing save (.enter path save.file)),
      w.2 ++ [.captured save]) := by
  -- the mutation before the autosave led to the state that is captured, or to an older one
  have upTo : save.generation ≤ save.state.generation := by
    rw [now]
    obtain ⟨_, _, same⟩ | ⟨rfl, _⟩ := free
    · exact same ▸ UInt64.le_refl _
    · exact h.committed t _ thread
  refine h.put thread (UInt64.le_refl _) (fun _ e => ?_) (fun _ _ e => ?_) (fun _ member => ?_)
    (fun _ member => ?_) (.inl ⟨rfl, fun _ member => ?_⟩)
  · cases e
  · cases e
    refine ⟨upTo, fun returned => ?_⟩
    obtain opening | ⟨failure, refused⟩ := @WritePoint.enter_cases path save.file
    · rw [opening] at returned
      cases returned
    · rw [refused] at returned
      cases returned
  · cases List.mem_singleton.1 member
  · cases List.mem_singleton.1 member
  · cases List.mem_singleton.1 member

/-- A call of a save keeps what has been saved (source `write_file_atomically`). -/
lemma Lasting.write (h : Lasting s w) (saves : Saved s first w) {t : Nat}
    {act : WriteAction} {point point' : WritePoint} {disk : Disk}
    (thread : w.1.threads[t]? = some (.writing save point))
    (upTo : renamesNewest w (.write t act) = true)
    (moved : point.step path save.options.fsync w.1.disk act = some (disk, point'))
    (logs : (point' = .returned (.ok ()) ∧ log = [.renamed save]) ∨
      (point' ≠ .returned (.ok ()) ∧ log = [])) :
    Lasting s ({ w.1.setThread t (.writing save point') with disk }, w.2 ++ log) := by
  obtain ⟨captured, ready⟩ := saves.ready t save point thread
  have after := ready.step saves.sound moved
  have holds := (h.captured t _ _ thread).1
  obtain ⟨returned, rfl⟩ | ⟨other, rfl⟩ := logs
  · -- the file that is renamed is the newest one
    obtain ⟨rfl, reads⟩ := after.saved returned
    simp only [renamesNewest, thread] at upTo
    refine h.put thread (UInt64.le_refl _) (fun _ e => ?_) (fun _ _ e => ?_) (fun _ member => ?_)
      (fun _ member => ?_) (.inr ⟨save, rfl, captured.known, reads, fun earlier member => ?_⟩)
    · cases e
    · cases e
      exact ⟨holds, fun _ => List.mem_append_right _ List.mem_cons_self⟩
    · cases List.mem_singleton.1 member
    · cases List.mem_singleton.1 member
    · exact of_decide_eq_true (List.all_eq_true.1 upTo _ member)
  · refine h.put thread (UInt64.le_refl _) (fun _ e => ?_) (fun _ _ e => ?_) (fun _ member => ?_)
      (fun _ member => ?_) (.inl ⟨after.kept other, fun _ => List.not_mem_nil⟩)
    · cases e
    · cases e
      exact ⟨holds, fun returned => absurd returned other⟩
    · cases member
    · cases member

/-- A save that returns is acknowledged when it succeeded (source `RegistryImpl::maybe_autosave`). -/
lemma Lasting.finish (h : Lasting s w) {t : Nat} {noted : Generation} {status : Result Unit}
    (thread : w.1.threads[t]? = some (.writing save (.returned status)))
    (logs : (status = .ok () ∧ log = [.acknowledged save]) ∨ (status ≠ .ok () ∧ log = [])) :
    Lasting s ({ w.1.setThread t .idle with autosaveGeneration := noted }, w.2 ++ log) := by
  obtain ⟨le, saved⟩ := h.captured t _ _ thread
  obtain ⟨rfl, rfl⟩ | ⟨_, rfl⟩ := logs
  · refine h.put thread (UInt64.le_refl _) (fun _ e => ?_) (fun _ _ e => ?_) (fun _ member => ?_)
      (fun _ member => ?_) (.inl ⟨rfl, fun _ member => ?_⟩)
    · cases e
    · cases e
    · cases List.mem_singleton.1 member
      exact ⟨saved rfl, le⟩
    · cases List.mem_singleton.1 member
    · cases List.mem_singleton.1 member
  · refine h.put thread (UInt64.le_refl _) (fun _ e => ?_) (fun _ _ e => ?_) (fun _ member => ?_)
      (fun _ member => ?_) (.inl ⟨rfl, fun _ => List.not_mem_nil⟩)
    · cases e
    · cases e
    · cases member
    · cases member

/-- Every step keeps what has been saved, when the saves take turns. -/
lemma Lasting.step (h : Lasting s w) (saves : Saved s first w)
    (room : countersAdvance w action = true) (upTo : renamesNewest w action = true)
    (taken : Durable.logged config path w action = some w') : Lasting s w' := by
  cases durableStep_of_logged taken with
  | mutate thread committed => exact h.mutate saves.registry thread room committed
  | capture thread now under free => exact h.capture thread now free
  | write thread moved logs => exact h.write saves thread upTo moved logs
  | finish thread notes logs => exact h.finish thread logs

/-- Before any step nothing is saved, and the registry has what a restart needs. -/
lemma Lasting.start {threads : Nat} {disk : Disk} (restartable : Restartable s) :
    Lasting s (Durable.start s threads disk, []) where
  committed t _ atT := by cases Durable.start_idle atT
  captured t _ _ atT := by cases Durable.start_idle atT
  acknowledged _ member := (List.not_mem_nil member).elim
  newest _ member := (List.not_mem_nil member).elim
  restartable state known := by
    obtain rfl | committed := known
    · exact restartable
    · exact (List.not_mem_nil committed).elim

/-- One save at a time is under way, of a state that is as new as every file that was renamed. -/
structure Apart (w : Durable × List DurableEffect) : Prop where
  one : ∀ (t u : Nat) x y, w.1.threads[t]? = some x → w.1.threads[u]? = some y →
    x.saves = true → y.saves = true → t = u
  upToDate : ∀ save, .renamed save ∈ w.2 → save.state.generation ≤ w.1.registry.generation
  captured : ∀ (t : Nat) save point, w.1.threads[t]? = some (.writing save point) →
    save.state.generation ≤ w.1.registry.generation
  newest : ∀ (t : Nat) save point, w.1.threads[t]? = some (.writing save point) →
    (Saver.writing save point).saves = true →
    ∀ earlier, .renamed earlier ∈ w.2 → earlier.state.generation ≤ save.state.generation

omit [StdSort] in
/-- A thread that has the temporary file open is in a save. -/
lemma Saver.saves_of_holds {thread : Saver} (holds : thread.holds = true) :
    thread.saves = true := by
  cases thread with
  | writing save point => cases point <;> first | rfl | cases holds
  | _ => cases holds

omit [StdSort] in
/-- A thread whose save makes another call is in a save. -/
lemma Saver.saves_of_step {fsync : Bool} {disk : Disk} {act : WriteAction} {point : WritePoint}
    {next : Disk × WritePoint} (moved : point.step path fsync disk act = some next) :
    (Saver.writing save point).saves = true := by
  cases point with
  | returned => cases moved
  | _ => rfl

omit [StdSort] in
/-- A thread that is in no save afterwards leaves one save at a time. -/
lemma Apart.rest (h : Apart w) {t : Nat} {before point : Saver} {noted : Generation}
    (thread : w.1.threads[t]? = some before) (rests : point.saves = false)
    (later : w.1.registry.generation ≤ state.generation)
    (renames : ∀ save, .renamed save ∉ log) (quiet : ∀ save at_, point ≠ .writing save at_) :
    Apart ({ w.1.setThread t point with registry := state, autosaveGeneration := noted },
      w.2 ++ log) where
  one u v x y atU atV savesU savesV := by
    obtain ⟨_, rfl⟩ | ⟨_, atU⟩ := setThread_eq_some thread atU
    · rw [rests] at savesU
      cases savesU
    · obtain ⟨_, rfl⟩ | ⟨_, atV⟩ := setThread_eq_some thread atV
      · rw [rests] at savesV
        cases savesV
      · exact h.one u v x y atU atV savesU savesV
  upToDate save member :=
    UInt64.le_trans (h.upToDate save ((List.mem_append.1 member).resolve_right (renames save))) later
  captured u save at_ atU := by
    obtain ⟨_, here⟩ | ⟨_, atU⟩ := setThread_eq_some thread atU
    · exact absurd here.symm (quiet save at_)
    · exact UInt64.le_trans (h.captured u save at_ atU) later
  newest u save at_ atU saves earlier member := by
    obtain ⟨_, here⟩ | ⟨_, atU⟩ := setThread_eq_some thread atU
    · exact absurd here.symm (quiet save at_)
    · exact h.newest u save at_ atU saves earlier
        ((List.mem_append.1 member).resolve_right (renames earlier))

omit [StdSort] in
/-- A thread that begins a save or goes on with it while no other thread is in one leaves one save at
a time. -/
lemma Apart.goOn (h : Apart w) {t : Nat} {before : Saver} {point : WritePoint} {disk : Disk}
    (thread : w.1.threads[t]? = some before)
    (alone : ∀ (u : Nat) x, u ≠ t → w.1.threads[u]? = some x → x.saves = false)
    (upToDate : save.state.generation ≤ w.1.registry.generation)
    (renames : ∀ earlier, .renamed earlier ∈ log → earlier = save)
    (newest : ∀ earlier, .renamed earlier ∈ w.2 → earlier.state.generation ≤ save.state.generation) :
    Apart ({ w.1.setThread t (.writing save point) with disk }, w.2 ++ log) where
  one u v x y atU atV savesU savesV := by
    have own {u : Nat} {x : Saver} (saves : x.saves = true)
        (atU : (w.1.setThread t (.writing save point)).threads[u]? = some x) : u = t := by
      obtain ⟨here, _⟩ | ⟨differ, atU⟩ := setThread_eq_some thread atU
      · exact here.symm
      · rw [alone u x (Ne.symm differ) atU] at saves
        cases saves
    exact (own savesU atU).trans (own savesV atV).symm
  upToDate earlier member := by
    obtain before | now := List.mem_append.1 member
    · exact h.upToDate earlier before
    · exact renames earlier now ▸ upToDate
  captured u save' at_ atU := by
    obtain ⟨_, here⟩ | ⟨_, atU⟩ := setThread_eq_some thread atU
    · cases here
      exact upToDate
    · exact h.captured u save' at_ atU
  newest u save' at_ atU saves earlier member := by
    obtain ⟨_, here⟩ | ⟨differ, atU⟩ := setThread_eq_some thread atU
    · cases here
      obtain before | now := List.mem_append.1 member
      · exact newest earlier before
      · exact renames earlier now ▸ UInt64.le_refl _
    · rw [alone u _ (Ne.symm differ) atU] at saves
      cases saves

omit [StdSort] in
/-- While a thread is in a save, no other thread is. -/
lemma Apart.alone (h : Apart w) {t : Nat} {x : Saver} (thread : w.1.threads[t]? = some x)
    (saves : x.saves = true) {u : Nat} {y : Saver} (differ : u ≠ t)
    (other : w.1.threads[u]? = some y) : y.saves = false :=
  Bool.eq_false_iff.2 fun savesU => differ (h.one u t y x other thread savesU saves)

/-- Every step leaves one save at a time, when none is under way as one captures a state. -/
lemma Apart.step (h : Apart w) (room : countersAdvance w action = true)
    (apart : savesApart w action = true)
    (taken : Durable.logged config path w action = some w') : Apart w' := by
  cases durableStep_of_logged taken with
  | mutate thread committed =>
    have last := of_decide_eq_true (Bool.and_eq_true_iff.1 room).2
    have later := UInt64.le_of_lt (generation_lt_of_step last committed)
    refine h.rest thread rfl later (fun save member => ?_) nofun
    cases List.mem_singleton.1 member
  | @capture t options before save thread now under free =>
    refine h.goOn thread (fun u x _ atU => ?_) (now ▸ UInt64.le_refl _) (fun earlier member => ?_)
      (now ▸ h.upToDate)
    · have free := List.all_eq_true.1 apart x (List.mem_of_getElem? atU)
      exact (Bool.not_eq_true' _).mp free
    · cases List.mem_singleton.1 member
  | @write t act save point disk point' log thread moved logs =>
    have saves : (Saver.writing save point).saves = true := Saver.saves_of_step moved
    refine h.goOn thread (fun u x differ => h.alone thread saves differ)
      (h.captured t save point thread) (fun earlier member => ?_) (h.newest t save point thread saves)
    obtain ⟨_, rfl⟩ | ⟨_, rfl⟩ := logs
    · cases List.mem_singleton.1 member
      rfl
    · cases member
  | @finish t save status noted log thread notes logs =>
    refine h.rest thread rfl (UInt64.le_refl _) (fun save member => ?_) nofun
    obtain ⟨_, rfl⟩ | ⟨_, rfl⟩ := logs
    · cases List.mem_singleton.1 member
    · cases member

/-- While one save at a time is under way, a save opens the temporary file alone and renames it over
that of no newer state. -/
lemma Apart.inTurn (h : Apart w) (taken : Durable.logged config path w action = some w') :
    savesInTurn w action = true := by
  have moved := durableStep_of_logged taken
  refine Bool.and_eq_true_iff.2 ⟨?_, ?_⟩
  · unfold savesAlone
    split
    · cases moved with
      | @write t act save point disk point' log thread moved logs =>
        cases point with
        | opening bytes =>
          refine List.all_eq_true.2 fun x member => (Bool.not_eq_true' _).mpr ?_
          refine Bool.eq_false_iff.2 fun holds => ?_
          -- who has the temporary file open is in a save, and this thread is the only one
          obtain ⟨u, atU⟩ := List.mem_iff_getElem?.1 member
          obtain rfl := h.one u _ x _ atU thread (Saver.saves_of_holds holds) rfl
          cases Option.some.inj (atU.symm.trans thread)
          cases holds
        | _ => cases moved
    · rfl
  · unfold renamesNewest
    split
    · split
      · rename_i t _ save point thread
        have saves : (Saver.writing save point).saves = true := by
          cases moved with
          | write thread' moved logs =>
            cases Option.some.inj (thread.symm.trans thread')
            exact Saver.saves_of_step moved
        refine List.all_eq_true.2 fun effect member => ?_
        cases effect with
        | renamed earlier => exact decide_eq_true (h.newest t save point thread saves earlier member)
        | _ => rfl
      · rfl
    · rfl

omit [StdSort] in
/-- Before any step no save is under way. -/
lemma Apart.start {threads : Nat} {disk : Disk} : Apart (Durable.start s threads disk, []) where
  one t u x y atT _ saves _ := by
    rw [Durable.start_idle atT] at saves
    cases saves
  upToDate _ member := (List.not_mem_nil member).elim
  captured t _ _ atT := by cases Durable.start_idle atT
  newest t _ _ atT := by cases Durable.start_idle atT

/-- Saves that do not overlap take turns: where none is under way as one captures a state, a save
opens the temporary file alone and renames it over that of no newer state. -/
lemma run_inTurn_of_apart {threads : Nat} {disk : Disk}
    (reached : Run (Durable.logged config path)
      (fun w action => countersAdvance w action = true ∧ savesApart w action = true)
      (Durable.start s threads disk, []) w) :
    Run (Durable.logged config path)
      (fun w action => countersAdvance w action = true ∧ savesInTurn w action = true)
      (Durable.start s threads disk, []) w :=
  reached.guard Apart .start (fun _ _ _ h ok taken => h.step ok.1 ok.2 taken)
    fun _ _ _ h ok taken => ⟨ok.1, h.inTurn taken⟩

end Run

/-- A save of a generation is acknowledged. -/
def acknowledges (generation : Generation) (log : List DurableEffect) : Bool :=
  log.any fun effect => match effect with
    | .acknowledged save => save.generation = generation
    | _ => false

/-- A generation is acknowledged by a save in the log. -/
lemma mem_of_acknowledges {generation : Generation} {log : List DurableEffect}
    (acknowledged : acknowledges generation log = true) :
    ∃ save, .acknowledged save ∈ log ∧ save.generation = generation := by
  obtain ⟨effect, member, same⟩ := List.any_eq_true.1 acknowledged
  cases effect with
  | acknowledged save => exact ⟨save, member, of_decide_eq_true same⟩
  | _ => cases same

/-- No counter wraps, and no save is under way when one captures a state. -/
def advancesApart (w : Durable × List DurableEffect) (action : DurableAction) : Bool :=
  countersAdvance w action && savesApart w action

end TransceiverRegistry

import TransceiverRegistry.Registry.Housed
import TransceiverRegistry.Snapshot.Consistency
import TransceiverRegistry.Snapshot.CurrentOnly

/-!
# Knowledge across restarts

A registry that loads the whole file of another one knows what the other one knew: the same sources,
modules, ports, slots, policies in force and rules, at the next generation. So it answers every query
about identity, capabilities and compatibility as the other one would at that generation, although the
file holds the statements about a module in an order of its own.
-/

namespace TransceiverRegistry

open Lib

/-- What a restart keeps of a registry and needs of it. -/
structure Restartable (s : State) : Prop where
  consistent : Consistent s
  paced : Paced s
  dated : DatedModules s
  housed : Housed s
  told : ClaimsTold s
  flags : FlagsSet s.modules

section Restart

variable [StdSort] {saved parsed s s' : State} {includeHistory : Bool} {config : RegistryConfig}
  {record : ModuleRecord}

omit [StdSort] in
/-- The statements about every module of such a registry are told apart. -/
lemma Restartable.apart (h : Restartable s) : s.Apart :=
  fun uid record found => ⟨h.told uid record found, (h.dated uid record found).told⟩

omit [StdSort] in
/-- A registry in which nothing is registered can be restarted. -/
lemma Restartable.blank {generation : Generation} :
    Restartable { State.initial with generation } where
  consistent := .blank
  paced := .blank
  dated uid record found := by simp [State.initial] at found
  housed := .blank
  told uid record found := by simp [State.initial] at found
  flags := .empty

/-- A step keeps what a restart needs (source `RegistryImpl::mutate`). -/
lemma Restartable.step (h : Restartable s) {call : Call} (room : advances s = true)
    (taken : step config s call = some s') : Restartable s' where
  consistent := h.consistent.step h.paced room taken
  paced := h.paced.step room taken
  dated := h.dated.step h.consistent taken
  housed := h.housed.step h.consistent taken
  told := h.told.step h.consistent taken
  flags := h.flags.step taken

/-- The claims that are parsed are told apart (source `encode_module`, `decode_module`). -/
lemma ClaimsTold.rebuilt (told : ClaimsTold saved) (rebuilt : Rebuilt saved includeHistory parsed) :
    ClaimsTold parsed := by
  intro uid record found
  cases rebuilt with
  | blank => simp [State.initial] at found
  | @front c front =>
    obtain ⟨inside, _⟩ := getElem?_insertAll_empty found
    obtain ⟨written, read, rfl⟩ := List.mem_map.1 inside
    obtain ⟨i, known⟩ := mem_values.1 (mem_of_front front.modules read)
    have kept : TellsApart claimReading IdentityClaim.subject
        (written.claims.filter fun c => includeHistory || c.live) :=
      (told i written known).sublist List.filter_sublist
    exact ((StdSort.perm claimBefore _).pairwise_iff fun apart same => (apart same.symm).symm).2 kept

omit [StdSort] in
/-- A load keeps the claims told apart (source `load_snapshot`). -/
lemma ClaimsTold.restore (told : ClaimsTold parsed) (now : WallNs) :
    ClaimsTold (parsed.restore now) := by
  intro uid record found
  have found : (parsed.modules.map fun _ record => record.revalidate parsed now)[uid]? =
    some record := found
  rw [Std.ExtTreeMap.getElem?_map] at found
  obtain ⟨before, held, rfl⟩ := Option.map_eq_some_iff.1 found
  exact told uid before held

/-- What is loaded is housed: the slots of modules that are not there are dropped (source
`load_snapshot`). -/
lemma Housed.reloaded (rebuilt : Rebuilt saved includeHistory parsed) (now : WallNs) :
    Housed (parsed.restore now) := by
  have keys : Keyed (fun record : PortRecord => record.key.str) parsed.ports ∧
      Keyed (fun a : AttachmentRecord => a.slot.str) parsed.attachments := by
    cases rebuilt with
    | blank => exact ⟨Keyed.empty, Keyed.empty⟩
    | front => exact ⟨Keyed.insertAll, Keyed.insertAll⟩
  have slot {k : Bytes} {a : AttachmentRecord} (taken : (parsed.restore now).attachments[k]? = some a) :
      parsed.attachments[k]? = some a ∧ (revalidateEvidence parsed now).keepsAttachment a = true := by
    have taken : (parsed.attachments.filter fun _ a =>
      (revalidateEvidence parsed now).keepsAttachment a)[k]? = some a := taken
    rw [Std.ExtTreeMap.getElem?_filter'] at taken
    exact Option.filter_eq_some_iff.1 taken
  refine ⟨keys.1, fun k a taken => keys.2 k a (slot taken).1, fun k a taken => ?_⟩
  exact Std.ExtTreeMap.mem_iff_contains.2 (slot taken).2

/-- What is loaded of a registry that can be restarted can be restarted (source
`load_snapshot`). -/
lemma Restartable.reloaded (h : Restartable saved) (held : holdsCounters saved = true)
    (rebuilt : Rebuilt saved includeHistory parsed) (now : WallNs) :
    Restartable (parsed.restore now) := by
  have last : parsed.generation ≠ 0xFFFFFFFFFFFFFFFF := by
    simp only [holdsCounters, Bool.and_eq_true, decide_eq_true_eq] at held
    rw [rebuilt.generation]
    exact held.2
  exact {
    consistent := (h.consistent.rebuilt h.paced held rebuilt).restore last now
    paced := (h.paced.rebuilt held rebuilt).restore now
    dated := (h.dated.rebuilt rebuilt).restore now
    housed := Housed.reloaded rebuilt now
    told := (h.told.rebuilt rebuilt).restore now
    flags := (rebuilt.flags h.flags).restore now }

/-- Every registry that operations, saves, crashes and loads reach can be restarted, while the counters
have a next value. -/
lemma Run.restartable {w : Deployment}
    (reached : Run Deployment.step (fun w event => keepsStates advances holdsCounters w event = true)
      (Deployment.fresh config) w) : Restartable w.registry :=
  Run.upheld reached .blank (fun _ _ _ _ room taken h => h.step room taken)
    fun _ _ _ now held rebuilt h => h.reloaded held rebuilt now

/-- A module that is read back holds what it held (source `encode_module`, `decode_module`). -/
lemma ModuleRecord.alike_restored (flagged : record.Flagged) (now : WallNs) :
    record.Alike (((record.stored includeHistory).restored).revalidate parsed now) where
  key := rfl
  uid := rfl
  incarnation := rfl
  incarnations := rfl
  state := rfl
  claims := by
    have all : record.claims.filter (fun c => includeHistory || c.live) = record.claims :=
      List.filter_eq_self.2 fun c member => by rw [flagged.claims c member, Bool.or_true]
    refine (StdSort.perm claimBefore record.claims).symm.trans (List.Perm.of_eq ?_)
    show _ = StdSort.sort claimBefore (record.claims.filter fun c => includeHistory || c.live)
    rw [all]
  declarations := by
    have all : record.declarations.filter (fun d => includeHistory || d.live) =
        record.declarations :=
      List.filter_eq_self.2 fun d member => by rw [flagged.declarations d member, Bool.or_true]
    refine (StdSort.perm declarationBefore record.declarations).symm.trans (List.Perm.of_eq ?_)
    show _ = StdSort.sort declarationBefore
      (record.declarations.filter fun d => includeHistory || d.live)
    rw [all]
  samples := (StdSort.perm sampleBefore record.samples).symm
  lifecycle some := by
    have perm := StdSort.perm eventBefore record.lifecycle
    have kept : StdSort.sort eventBefore record.lifecycle ≠ [] := fun none => by
      rw [none] at perm
      exact some perm.nil_eq.symm
    refine perm.symm.trans (List.Perm.of_eq ?_)
    exact (if_neg kept).symm

/-- The slots are read back: all of them name a module (source `load_snapshot`). -/
lemma reloaded_attachments (housed : Housed saved) (keyed : Keyed ModuleRecord.uid saved.modules)
    (now : WallNs) :
    ((saved.reread includeHistory).restore now).attachments = saved.attachments := by
  have slots : (saved.reread includeHistory).attachments = saved.attachments :=
    housed.slots.key.insertAll_values (StdSort.perm _ _)
  have modules : (saved.reread includeHistory).modules =
      saved.modules.map fun _ record => (record.stored includeHistory).restored :=
    State.reread_modules keyed
  show ((saved.reread includeHistory).attachments.filter fun _ a =>
    ((saved.reread includeHistory).modules.map fun _ record =>
      record.revalidate (saved.reread includeHistory) now).contains a.uid) = saved.attachments
  rw [slots]
  ext1 k
  rw [Std.ExtTreeMap.getElem?_filter']
  cases taken : saved.attachments[k]? with
  | none => rfl
  | some a =>
    refine Option.filter_eq_some_iff.2 ⟨rfl, ?_⟩
    rw [← Std.ExtTreeMap.mem_iff_contains, Std.ExtTreeMap.mem_map, modules, Std.ExtTreeMap.mem_map]
    exact housed.slots.named k a taken

/-- The policies in force are read back, with or without history (source `live_thresholds`). -/
lemma reloaded_liveThresholds (now : WallNs) :
    liveThresholds ((saved.reread includeHistory).restore now) = liveThresholds saved := by
  show (((saved.thresholds.filter fun record => includeHistory || record.live).map
    ThresholdRecord.restored).filter (·.live)).map (·.threshold) = _
  rw [List.filter_map, List.filter_filter, List.map_map]
  refine congrArg (List.map _) (List.filter_congr fun record _ => ?_)
  show (record.live && (includeHistory || record.live)) = record.live
  cases record.live <;> cases includeHistory <;> rfl

/-- A registry that loads the whole file of another one knows what the other one knew (source
`load_snapshot`). -/
lemma Restartable.alike (h : Restartable saved) (now : WallNs) :
    saved.Alike ((saved.reread includeHistory).restore now) where
  sources id := by
    have sources : (saved.reread includeHistory).sources =
        saved.sources.map fun _ source => source.restored :=
      h.consistent.sources.keyed.insertAll_map (StdSort.perm _ _) fun _ => rfl
    show (saved.reread includeHistory).sources[id]?.map _ = _
    rw [sources, Std.ExtTreeMap.getElem?_map, Option.map_map]
    rfl
  modules uid := by
    have modules : (saved.reread includeHistory).modules =
        saved.modules.map fun _ record => (record.stored includeHistory).restored :=
      State.reread_modules h.consistent.modules.keyed
    show Option.Rel _ _ ((saved.reread includeHistory).modules.map fun _ record =>
      record.revalidate (saved.reread includeHistory) now)[uid]?
    rw [Std.ExtTreeMap.getElem?_map, modules, Std.ExtTreeMap.getElem?_map]
    cases found : saved.modules[uid]? with
    | none => exact .none
    | some record => exact .some (record.alike_restored (h.flags uid record found) now)
  ports key := by
    have ports : (saved.reread includeHistory).ports =
        saved.ports.map fun _ record => record.restored :=
      h.housed.ports.insertAll_map (StdSort.perm _ _) fun _ => rfl
    show (saved.reread includeHistory).ports[key]?.map _ = _
    rw [ports, Std.ExtTreeMap.getElem?_map, Option.map_map]
    rfl
  attachments := reloaded_attachments h.housed h.consistent.modules.keyed now
  thresholds := reloaded_liveThresholds now
  rules := h.consistent.rules.keyed.insertAll_values (StdSort.perm _ _)

/-- In every state that operations, saves, crashes and loads reach while the counters have a next
value, and for every load of the whole file that is saved of it, with or without history: the registry
that loads it has the same knowledge at the next generation and in the next incarnation, which is the
first one after the last, and gives the answers that the saved one would give at that generation
(source `load_snapshot`, `encode_state_records`). -/
theorem restart_keeps_knowledge {w : Deployment} {clock : Clock} {options : LoadOptions}
    {report : LoadReport}
    (reached : Run Deployment.step (fun w event => keepsStates advances holdsCounters w event = true)
      (Deployment.fresh config) w)
    (loaded : loadSnapshot clock options (snapshotFile w.registry includeHistory) s =
      .ok (s', report)) (whole : report.tailRecovered = false) :
    w.registry.Alike s' ∧ s'.generation = w.registry.generation + 1 ∧
    s'.registryIncarnation =
      (if w.registry.registryIncarnation = 0xFFFFFFFF then 1
        else w.registry.registryIncarnation + 1) ∧
    SameAnswers s' { w.registry with generation := s'.generation } ∧
    ∀ port, portCapabilities s' port =
      portCapabilities { w.registry with generation := s'.generation } port := by
  have restartable := Run.restartable reached
  obtain rfl := loadSnapshot_whole loaded whole
  have alike : w.registry.Alike ((w.registry.reread includeHistory).restore (clock.wallNowNs 0)) :=
    restartable.alike _
  have same : State.Alike { w.registry with
      generation := ((w.registry.reread includeHistory).restore (clock.wallNowNs 0)).generation }
      ((w.registry.reread includeHistory).restore (clock.wallNowNs 0)) :=
    ⟨alike.sources, alike.modules, alike.ports, alike.attachments, alike.thresholds, alike.rules⟩
  have apart := restartable.apart
  refine ⟨alike, rfl, rfl, ⟨?_, ?_, ?_⟩, ?_⟩
  · exact same.identity apart rfl
  · exact same.capabilities apart rfl
  · exact same.queryCompatibility apart rfl
  · exact same.portCapabilities rfl

end Restart

set_option maxRecDepth 20000 in
/-- A registry that loads what is saved of a registered source knows the source, at the next generation
and in the second incarnation. -/
theorem restart_keeps_knowledge_host : ∃ (w : Deployment) (s' : State),
    w.registry.sources.isEmpty = false ∧
    w.registry.Alike s' ∧ s'.generation = w.registry.generation + 1 ∧
    s'.registryIncarnation = 2 := by
  have saved : (runGuarded Deployment.step (keepsStates advances holdsCounters)
      [.call registerHost] (Deployment.fresh {})).any (fun w =>
        (!w.registry.sources.isEmpty && decide (w.registry.registryIncarnation = 1)) &&
        (loadSnapshot stillClock {} (snapshotFile w.registry true) .initial).toOption.any
          fun loaded => !loaded.2.tailRecovered) = true := by decide +kernel
  obtain ⟨w, reached, shows⟩ := Run.exists_ofGuarded saved
  obtain ⟨stated, shows⟩ := Bool.and_eq_true_iff.1 shows
  obtain ⟨stated, first⟩ := Bool.and_eq_true_iff.1 stated
  obtain ⟨⟨s', report⟩, loaded, whole⟩ := (Option.any_eq_true _ _).1 shows
  have kept := restart_keeps_knowledge reached (toOption_eq_some.1 loaded)
    ((Bool.not_eq_true' _).mp whole)
  have second := kept.2.2.1
  rw [of_decide_eq_true first] at second
  exact ⟨w, s', (Bool.not_eq_true' _).mp stated, kept.1, kept.2.1, second⟩

end TransceiverRegistry

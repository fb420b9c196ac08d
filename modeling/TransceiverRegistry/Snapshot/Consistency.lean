import TransceiverRegistry.Registry.Publishing
import TransceiverRegistry.Snapshot.Restart

/-!
# Ids and origins across restarts

What is loaded from the snapshot of a consistent registry is consistent, also when only the first
records of the file are read: the counters come first, and the sources come before the statements
that name them. After the sequence counter has wrapped, a stored statement is ahead of it.
-/

namespace TransceiverRegistry

open Lib

/-- The sequence counter is held by a file (source `codec::integer`), and the generation has a next
value. -/
def holdsCounters (s : State) : Bool :=
  s.nextSequence.toNat < 2 ^ 63 && s.generation ≠ 0xFFFFFFFFFFFFFFFF

section Front

variable [StdSort] {saved parsed : State} {includeHistory : Bool} {c : Contents} {o : Origin}
  {record : ModuleRecord}

/-- The first entries of a sorted list are entries of the list. -/
lemma mem_of_front {α : Type} {lt : α → α → Bool} {front l : List α}
    (start : front <+: StdSort.sort lt l) {a : α} (member : a ∈ front) : a ∈ l :=
  (StdSort.perm lt l).subset (start.subset member)

/-- The first entries of a sorted list have different names when all of them have. -/
lemma nodup_front {α β : Type} {lt : α → α → Bool} {front l : List α} {name : α → β}
    (start : front <+: StdSort.sort lt l) (names : (l.map name).Nodup) :
    (front.map name).Nodup :=
  (start.sublist.map name).nodup (((StdSort.perm lt l).map name).nodup_iff.2 names)

/-- A module that is read back has no new origins (source `encode_module`, `decode_module`). -/
lemma origins_stored : (record.stored includeHistory).restored.origins ⊆ record.origins := by
  refine origins_mono (fun claim member => ?_) (fun declaration member => ?_)
    (fun sample member => ?_)
  · exact (List.mem_filter.1 ((StdSort.perm _ _).subset member)).1
  · exact (List.mem_filter.1 ((StdSort.perm _ _).subset member)).1
  · exact (StdSort.perm _ _).subset member

omit [StdSort] in
/-- The counters of a state that could be saved are read back (source `get_unsigned_or`). -/
lemma storedCounter_of_le {fallback n : UInt64} (held : holdsCounters saved = true)
    (behind : n.toNat ≤ saved.nextSequence.toNat) : storedCounter fallback n = n := by
  simp only [holdsCounters, Bool.and_eq_true, decide_eq_true_eq] at held
  exact if_pos (Nat.lt_of_le_of_lt behind held.1)

/-- What is built of the first records is identified. -/
lemma Identified.rebuild (identified : Identified saved) (paced : Paced saved)
    (held : holdsCounters saved = true) (front : c.Front (saved.contents includeHistory)) :
    Identified (c.rebuild includeHistory (saved.header saved.generation)) where
  sources := by
    refine Issued.insertAll fun r member => ?_
    obtain ⟨source, inside, rfl⟩ := List.mem_map.1 member
    obtain ⟨i, found⟩ := mem_values.1 (mem_of_front front.sources inside)
    have own : source.id = i := identified.sources.keyed i source found
    show source.id.toNat < (storedCounter 1 saved.nextSourceId).toNat
    rw [storedCounter_of_le held paced.source, own]
    exact identified.sources.below i (mem_of_getElem? found)
  names := by
    refine indexed_insertAll ?_ ?_
    · rw [List.map_map]
      exact nodup_front front.sources identified.sources.keyed.nodup_values
    · rw [List.map_map]
      exact nodup_front front.sources (identified.names.nodup_values identified.sources.keyed)
  modules := by
    refine Issued.insertAll fun r member => ?_
    obtain ⟨record, inside, rfl⟩ := List.mem_map.1 member
    obtain ⟨i, found⟩ := mem_values.1 (mem_of_front front.modules inside)
    have own : record.uid = i := identified.modules.keyed i record found
    show record.uid.toNat < (storedCounter 1 saved.nextModuleUid).toNat
    rw [storedCounter_of_le held paced.module, own]
    exact identified.modules.below i (mem_of_getElem? found)
  keys := by
    refine indexed_insertAll ?_ ?_
    · rw [List.map_map]
      exact nodup_front front.modules identified.modules.keyed.nodup_values
    · rw [List.map_map]
      exact nodup_front front.modules (identified.keys.nodup_values identified.modules.keyed)
  rules := by
    refine Issued.insertAll fun rule member => ?_
    obtain ⟨i, found⟩ := mem_values.1 (mem_of_front front.rules member)
    have own : rule.id = i := identified.rules.keyed i rule found
    show rule.id.toNat < (storedCounter 1 saved.nextRuleId).toNat
    rw [storedCounter_of_le held paced.rule, own]
    exact identified.rules.below i (mem_of_getElem? found)

/-- When a module or a port is read, all sources were read before, so an origin in the past stays
there (source `encode_state_records`). -/
lemma Origin.Traced.rebuild (traced : o.Traced saved) (identified : Identified saved)
    (held : holdsCounters saved = true) (front : c.Front (saved.contents includeHistory))
    (some : c.modules ≠ [] ∨ c.ports ≠ []) :
    o.Traced (c.rebuild includeHistory (saved.header saved.generation)) where
  known := by
    obtain ⟨source, found, epoch⟩ := traced.known
    have own : source.id = o.source := identified.sources.keyed _ source found
    have read : source ∈ c.sources := by
      rw [front.complete some]
      exact (StdSort.perm _ _).mem_iff.2 (mem_values.2 ⟨_, found⟩)
    have ids : ((c.sources.map SourceRecord.restored).map SourceRecord.id).Nodup := by
      rw [List.map_map]
      exact nodup_front front.sources identified.sources.keyed.nodup_values
    exact ⟨source.restored,
      (getElem?_insertAll_iff ids).2 ⟨List.mem_map_of_mem read, own⟩, epoch⟩
  sequence := by
    show o.sequence < storedCounter 1 saved.nextSequence
    rw [storedCounter_of_le held le_rfl]
    exact traced.sequence
  generation := traced.generation

/-- What is parsed from the file of a consistent registry is consistent
(source `parse_snapshot`). -/
lemma Consistent.rebuilt (consistent : Consistent saved) (paced : Paced saved)
    (held : holdsCounters saved = true) (rebuilt : Rebuilt saved includeHistory parsed) :
    Consistent parsed := by
  cases rebuilt with
  | blank => exact Consistent.blank
  | @front c front =>
    have identified := consistent.toIdentified
    refine { identified.rebuild paced held front with evidence := ?_, portEvidence := ?_ }
    · intro uid record found o member
      obtain ⟨inside, _⟩ := getElem?_insertAll_empty found
      obtain ⟨written, read, rfl⟩ := List.mem_map.1 inside
      obtain ⟨i, known⟩ := mem_values.1 (mem_of_front front.modules read)
      obtain ⟨traced, earlier⟩ := consistent.evidence i written known o (origins_stored member)
      exact ⟨traced.rebuild identified held front (.inl (List.ne_nil_of_mem read)), earlier⟩
    · intro key record found declaration member
      obtain ⟨inside, _⟩ := getElem?_insertAll_empty found
      obtain ⟨written, read, rfl⟩ := List.mem_map.1 inside
      obtain ⟨i, known⟩ := mem_values.1 (mem_of_front front.ports read)
      have traced := consistent.portEvidence i written known declaration member
      exact traced.rebuild identified held front (.inr (List.ne_nil_of_mem read))

/-- The counters that are parsed keep pace (source `decode_state_header`). -/
lemma Paced.rebuilt (paced : Paced saved) (held : holdsCounters saved = true)
    (rebuilt : Rebuilt saved includeHistory parsed) : Paced parsed := by
  cases rebuilt with
  | blank => exact Paced.blank
  | front =>
    constructor
    · show (storedCounter 1 saved.nextSourceId).toNat ≤ (storedCounter 1 saved.nextSequence).toNat
      rw [storedCounter_of_le held paced.source, storedCounter_of_le held le_rfl]
      exact paced.source
    · show (storedCounter 1 saved.nextModuleUid).toNat ≤ (storedCounter 1 saved.nextSequence).toNat
      rw [storedCounter_of_le held paced.module, storedCounter_of_le held le_rfl]
      exact paced.module
    · show (storedCounter 1 saved.nextRuleId).toNat ≤ (storedCounter 1 saved.nextSequence).toNat
      rw [storedCounter_of_le held paced.rule, storedCounter_of_le held le_rfl]
      exact paced.rule

omit [StdSort] in
/-- The counters that are loaded keep pace (source `load_snapshot`, the last locked block). -/
lemma Paced.restore (paced : Paced parsed) (now : WallNs) : Paced (parsed.restore now) := by
  have later : parsed.nextSequence.toNat ≤ (parsed.restore now).nextSequence.toNat := by
    show _ ≤ (if parsed.nextSequence = 0 then 1 else parsed.nextSequence).toNat
    split
    · rename_i zero
      rw [zero]
      exact Nat.zero_le _
    · exact Nat.le_refl _
  exact ⟨paced.source.trans later, paced.module.trans later, paced.rule.trans later⟩

omit [StdSort] in
/-- An origin in the past stays there when the registry starts its next incarnation
(source `load_snapshot`, the last locked block). -/
lemma Origin.Traced.restore (traced : o.Traced parsed)
    (last : parsed.generation ≠ 0xFFFFFFFFFFFFFFFF) (now : WallNs) :
    o.Traced (parsed.restore now) where
  known := traced.known
  sequence := by
    show o.sequence < if parsed.nextSequence = 0 then 1 else parsed.nextSequence
    have before := traced.sequence
    split
    · rename_i zero
      rw [zero] at before
      exact absurd before UInt64.not_lt_zero
    · exact before
  generation := UInt64.le_trans traced.generation (UInt64.le_of_lt (lt_next last))

omit [StdSort] in
/-- What a load does after the parse keeps a registry consistent (source `load_snapshot`). -/
lemma Consistent.restore (consistent : Consistent parsed)
    (last : parsed.generation ≠ 0xFFFFFFFFFFFFFFFF) (now : WallNs) :
    Consistent (parsed.restore now) where
  sources := consistent.sources
  names := consistent.names
  modules := by
    refine consistent.modules.map (f := fun _ record => record.revalidate parsed now) ?_
    exact fun _ _ => rfl
  keys := by
    refine consistent.keys.map (f := fun _ record => record.revalidate parsed now) ?_
    exact fun _ _ => rfl
  rules := consistent.rules
  evidence uid record found o member := by
    have found : (parsed.modules.map fun _ record => record.revalidate parsed now)[uid]? =
        some record := found
    rw [Std.ExtTreeMap.getElem?_map] at found
    obtain ⟨before, held, rfl⟩ := Option.map_eq_some_iff.1 found
    obtain ⟨traced, earlier⟩ := consistent.evidence uid before held o member
    exact ⟨traced.restore last now, earlier⟩
  portEvidence key record found declaration member :=
    (consistent.portEvidence key record found declaration member).restore last now

/-- The declarations of the modules that are parsed are told apart (source `encode_module`,
`decode_module`). -/
lemma DatedModules.rebuilt (dated : DatedModules saved)
    (rebuilt : Rebuilt saved includeHistory parsed) : DatedModules parsed := by
  intro uid record found
  cases rebuilt with
  | blank => simp [State.initial] at found
  | @front c front =>
    obtain ⟨inside, _⟩ := getElem?_insertAll_empty found
    obtain ⟨written, read, rfl⟩ := List.mem_map.1 inside
    obtain ⟨i, known⟩ := mem_values.1 (mem_of_front front.modules read)
    have fewer : (written.stored includeHistory).restored.declarations.Subperm
        written.declarations :=
      (StdSort.perm _ _).subperm.trans List.filter_sublist.subperm
    exact (dated i written known).mono fewer rfl (UInt32.le_refl _)

omit [StdSort] in
/-- A load keeps the declarations of the modules (source `load_snapshot`). -/
lemma DatedModules.restore (dated : DatedModules parsed) (now : WallNs) :
    DatedModules (parsed.restore now) := by
  intro uid record found
  have found : (parsed.modules.map fun _ record => record.revalidate parsed now)[uid]? =
    some record := found
  rw [Std.ExtTreeMap.getElem?_map] at found
  obtain ⟨before, held, rfl⟩ := Option.map_eq_some_iff.1 found
  exact (dated uid before held).mono (List.Subperm.refl _) rfl (UInt32.le_refl _)

/-- In every state that operations, saves, crashes and loads reach while the counters have a next
value, the ids and the origins are consistent, the counters keep pace, and the declarations of the
modules are told apart (source `State`). -/
lemma Run.consistent {config : RegistryConfig} {w : Deployment}
    (reached : Run Deployment.step (fun w event => keepsStates advances holdsCounters w event = true)
      (Deployment.fresh config) w) :
    Consistent w.registry ∧ Paced w.registry ∧ DatedModules w.registry := by
  refine Run.upheld (P := fun s => Consistent s ∧ Paced s ∧ DatedModules s) reached
    ⟨Consistent.blank, Paced.blank, fun uid record found => by simp [State.initial] at found⟩ ?_ ?_
  · rintro config s call s' room taken ⟨consistent, paced, dated⟩
    exact ⟨consistent.step paced room taken, paced.step room taken, dated.step consistent taken⟩
  · rintro saved includeHistory parsed now held rebuilt ⟨consistent, paced, dated⟩
    have last : parsed.generation ≠ 0xFFFFFFFFFFFFFFFF := by
      simp only [holdsCounters, Bool.and_eq_true, decide_eq_true_eq] at held
      rw [rebuilt.generation]
      exact held.2
    exact ⟨(consistent.rebuilt paced held rebuilt).restore last now,
      (paced.rebuilt held rebuilt).restore now, (dated.rebuilt rebuilt).restore now⟩

/-- In every state that operations, saves, crashes and loads reach: while every operation finds a next
sequence number and a next generation, and every snapshot is saved while a file holds the sequence
counter, the ids are below their counters, the indexes find exactly the sources by name and the
modules by key, and every stored statement has an origin in the past (source `State`). -/
theorem ids_and_origins_consistent {config : RegistryConfig} {w : Deployment}
    (reached : Run Deployment.step (fun w event => keepsStates advances holdsCounters w event = true)
      (Deployment.fresh config) w) : Consistent w.registry :=
  (Run.consistent reached).1

end Front

set_option maxRecDepth 20000 in
/-- After a save, a crash and a load, a claim of the source that was loaded has an origin in the
past. -/
theorem ids_and_origins_consistent_reloaded :
    ∃ w : Deployment, (∃ record, w.registry.modules[(1 : UInt64)]? = some record ∧
      record.claims ≠ []) ∧ Consistent w.registry := by
  have reloaded : (runGuarded Deployment.step (keepsStates advances holdsCounters)
      [.call registerHost, .save true, .crash {}, .load 0 {} stillClock,
        .call (registerBay bayA .ensureCurrent), .call (stateSerial 1)] (Deployment.fresh {})).any
        (fun w => w.registry.modules[(1 : UInt64)]?.any fun record => record.claims ≠ []) = true := by
    decide +kernel
  obtain ⟨w, reached, shows⟩ := Run.exists_ofGuarded reloaded
  obtain ⟨record, found, claims⟩ := (Option.any_eq_true _ _).1 shows
  exact ⟨w, ⟨record, found, of_decide_eq_true claims⟩, ids_and_origins_consistent reached⟩

/-- A run of calls is a run of a process. -/
lemma Run.calls {config : RegistryConfig} {s s' : State × List IdentityClaim} {files : List Bytes}
    (reached : Run (withHistory (step config) acceptedClaims) Unguarded s s') :
    Run Deployment.step Unguarded ⟨config, s.1, files⟩ ⟨config, s'.1, files⟩ := by
  induction reached with
  | start => exact .start
  | @next s call s' _ _ taken ih =>
    obtain ⟨moved, _⟩ := withHistory_eq_some.1 taken
    refine ih.next (a := .call call) trivial ?_
    rw [Deployment.step, moved]
    rfl

/-- After the sequence counter has wrapped, a stored claim is ahead of it (source
`next_sequence`). -/
theorem claim_ahead_after_wrap :
    ¬ ∀ (config : RegistryConfig) (w : Deployment),
      Run Deployment.step Unguarded (Deployment.fresh config) w → Consistent w.registry := by
  intro h
  have stated : (runActions (withHistory (step {}) acceptedClaims) [renewHost,
      registerBay bayA .ensureCurrent, stateSerial 1] (State.initial, [])).any
      (showsSerial ·.1) = true := by decide +kernel
  obtain ⟨w, reached, shows⟩ := Run.exists_ofActions stated
  obtain ⟨renewable, record, claim, found, serial⟩ := of_showsSerial shows
  obtain ⟨w', wrapped, _, same, one⟩ := renewable.wrap {}
  have consistent := h {} ⟨{}, w'.1, []⟩ (Run.calls (reached.trans wrapped))
  have stored : claim.origin ∈ record.origins :=
    mem_origins.2 (.inl ⟨claim, by simp [serial.claims], rfl⟩)
  obtain ⟨traced, _⟩ := consistent.evidence 1 record (by rw [same, found]) _ stored
  have ahead : claim.sequence < w'.1.nextSequence := traced.sequence
  rw [serial.sequence, one] at ahead
  exact absurd ahead (by decide)

end TransceiverRegistry

import TransceiverRegistry.Registry.Caps
import TransceiverRegistry.Snapshot.Restart

/-!
# Caps across restarts

What is loaded from the snapshot of a registry within its caps is within them: the parser reads the
records that were written, or the first ones of them, and counts the samples of every series anew.
-/

namespace TransceiverRegistry

open Lib

deriving instance DecidableEq for RegistryConfig

/-- The process starts again under one configuration. -/
def keepsConfig (config : RegistryConfig) (_ : Deployment) : Event → Bool
  | .crash config' => config' = config
  | _ => true

/-- Counting the samples anew is exact (source `decode_module`, `series_counts`). -/
lemma countSeries_exact {samples : List HealthSample} (small : samples.length < 2 ^ 32) :
    CountsExact samples (countSeries samples) := by
  induction samples using List.reverseRecOn with
  | nil =>
    intro series
    simp [countSeries, countOf]
  | append_singleton samples sample ih =>
    rw [List.length_append, List.length_singleton] at small
    have counted : countSeries (samples ++ [sample]) =
        countSample (countSeries samples) (seriesKey sample.metric sample.lane) := by
      rw [countSeries, List.foldl_append]
      rfl
    rw [counted]
    refine (ih (by omega)).push ?_
    have some := List.countP_le_length (l := samples)
      (p := (·.inSeries (seriesKey sample.metric sample.lane)))
    rw [countOf]
    omega

section Loads

variable [StdSort] {config : RegistryConfig} {includeHistory : Bool} {record : ModuleRecord}
  {saved parsed : State} {w w' : Deployment}

/-- Sorting a list keeps the number of entries with a property. -/
lemma countP_sort {α : Type} (lt : α → α → Bool) (p : α → Bool) (l : List α) :
    (StdSort.sort lt l).countP p = l.countP p := (StdSort.perm lt l).countP_eq p

/-- A module that is read back is within the caps of the one that was written
(source `encode_module`, `decode_module`). -/
lemma ModuleBooks.reload (books : ModuleBooks config record)
    (one : 1 ≤ config.maxLifecycleHistory) :
    ModuleBooks config (record.stored includeHistory).restored where
  bounds := by
    refine ⟨?_, ?_, ?_⟩
    · show (StdSort.sort _ _).length ≤ _
      rw [(StdSort.perm _ _).length_eq]
      exact (List.length_filter_le _ _).trans books.bounds.claims
    · show (StdSort.sort _ _).length ≤ _
      rw [(StdSort.perm _ _).length_eq]
      exact (List.length_filter_le _ _).trans books.bounds.declarations
    · show (StdSort.sort _ _).length ≤ _
      rw [(StdSort.perm _ _).length_eq]
      exact books.bounds.samples
  counts room := by
    have same (series : SeriesKey) : countOf (StdSort.sort sampleBefore record.samples) series =
        countOf record.samples series := countP_sort _ _ _
    have small : (StdSort.sort sampleBefore record.samples).length < 2 ^ 32 := by
      rw [(StdSort.perm _ _).length_eq]
      exact books.bounds.samples.trans_lt config.maxSamplesPerModule.toNat_lt
    have exact_ := countSeries_exact small
    refine ⟨fun series => (exact_ series).ge, fun series => ?_⟩
    exact (exact_ series).le.trans ((same series).le.trans (books.caps.series series))
  lifecycle := by
    show (if StdSort.sort eventBefore record.lifecycle = [] then _ else _ : List _).length ≤ _
    split
    · exact UInt32.le_iff_toNat_le.1 one
    · show (StdSort.sort _ _).length ≤ _
      rw [(StdSort.perm _ _).length_eq]
      exact books.lifecycle
  history group := by
    show (StdSort.sort _ _).countP _ ≤ _
    rw [countP_sort]
    exact List.filter_sublist.countP_le.trans (books.history group)

/-- What is parsed from the file of a registry within the caps is within them
(source `parse_snapshot`). -/
lemma Rebuilt.books (rebuilt : Rebuilt saved includeHistory parsed) (books : Books config saved)
    (one : 1 ≤ config.maxLifecycleHistory) : Books config parsed := by
  cases rebuilt with
  | blank => exact { Books.initial with }
  | @front c front =>
    have sized {α : Type} {l sorted : List α} {lt : α → α → Bool} {n : Nat}
        (part : l <+: StdSort.sort lt sorted) (size : sorted.length ≤ n) : l.length ≤ n :=
      part.length_le.trans ((StdSort.perm lt sorted).length_eq.le.trans size)
    constructor
    · exact Keyed.insertAll
    · refine size_insertAll_le.trans ?_
      rw [List.length_map]
      exact sized front.sources ((length_values _).le.trans books.sources)
    · refine size_insertAll_le.trans ?_
      rw [List.length_map]
      exact sized front.modules ((length_values _).le.trans books.modules)
    · refine size_insertAll_le.trans ?_
      rw [List.length_map]
      exact sized front.ports ((length_values _).le.trans books.ports)
    · exact size_insertAll_le.trans (sized front.rules ((length_values _).le.trans books.rules))
    · show (c.thresholds.map ThresholdRecord.restored).countP _ ≤ _
      rw [List.countP_map]
      exact (front.thresholds.sublist.countP_le).trans
        (List.filter_sublist.countP_le.trans books.thresholds)
    · intro uid record found
      obtain ⟨member, _⟩ := getElem?_insertAll_empty found
      obtain ⟨r, kept, rfl⟩ := List.mem_map.1 member
      have written := (StdSort.perm _ _).subset (front.modules.subset kept)
      obtain ⟨i, held⟩ := mem_values.1 written
      exact (books.eachModule i r held).reload one
    · intro key record found
      obtain ⟨member, _⟩ := getElem?_insertAll_empty found
      obtain ⟨r, kept, rfl⟩ := List.mem_map.1 member
      have written := (StdSort.perm _ _).subset (front.ports.subset kept)
      obtain ⟨i, held⟩ := mem_values.1 written
      exact books.eachPort i r held

omit [StdSort] in
/-- What a load does after the parse keeps the caps (source `load_snapshot`). -/
lemma Books.restore (books : Books config parsed) (now : WallNs) :
    Books config (parsed.restore now) where
  keyed := books.keyed
  sources := books.sources
  modules := by
    show (parsed.modules.map _).size ≤ _
    rw [Std.ExtTreeMap.size_map]
    exact books.modules
  ports := books.ports
  rules := books.rules
  thresholds := books.thresholds
  eachModule uid record found := by
    have found : (parsed.modules.map fun _ record => record.revalidate parsed now)[uid]? =
        some record := found
    rw [Std.ExtTreeMap.getElem?_map] at found
    obtain ⟨before, held, rfl⟩ := Option.map_eq_some_iff.1 found
    have kept := books.eachModule uid before held
    exact ⟨⟨kept.bounds.claims, kept.bounds.declarations, kept.bounds.samples⟩, kept.counts,
      kept.lifecycle, kept.history⟩
  eachPort := books.eachPort

/-- The registry and every registry that was saved are within the caps. -/
structure Stocked (config : RegistryConfig) (w : Deployment) : Prop where
  same : w.config = config
  books : Books config w.registry
  saved : ∀ bytes ∈ w.files, ∃ s includeHistory, bytes = snapshotFile s includeHistory ∧
    Books config s

/-- An event keeps the caps. -/
lemma Stocked.step (stocked : Stocked config w) (one : 1 ≤ config.maxLifecycleHistory)
    {event : Event} (kept : keepsConfig config w event = true) (taken : w.step event = some w') :
    Stocked config w' := by
  cases event with
  | call call =>
    obtain ⟨s', committed, rfl⟩ := Option.map_eq_some_iff.1 taken
    rw [stocked.same] at committed
    exact { stocked with books := stocked.books.step committed }
  | save includeHistory =>
    cases taken
    refine { stocked with saved := fun bytes member => ?_ }
    obtain earlier | now := List.mem_append.1 member
    · exact stocked.saved bytes earlier
    · exact ⟨w.registry, includeHistory, List.mem_singleton.1 now, stocked.books⟩
  | crash config' =>
    cases taken
    exact { stocked with same := of_decide_eq_true kept, books := Books.initial }
  | load file options clock =>
    obtain ⟨bytes, held, moved⟩ := Option.bind_eq_some_iff.1 taken
    obtain ⟨⟨s', report⟩, loaded, final⟩ := Option.bind_eq_some_iff.1 moved
    cases final
    obtain ⟨saved, includeHistory, rfl, books⟩ := stocked.saved bytes (List.mem_of_getElem? held)
    obtain ⟨parsed, rebuilt, rfl⟩ := loadSnapshot_written (toOption_eq_some.1 loaded)
    exact { stocked with books := (rebuilt.books books one).restore _ }

/-- In every state that operations, saves, crashes and loads reach under one configuration, the
registry is within its caps (source `RegistryConfig`). -/
theorem caps_hold (one : 1 ≤ config.maxLifecycleHistory)
    (reached : Run Deployment.step (fun w event => keepsConfig config w event = true)
      (Deployment.fresh config) w) : Caps config w.registry := by
  have stocked : Stocked config w := by
    refine reached.invariant (Stocked config) ?_ fun w event w' h => h.step one
    exact ⟨rfl, Books.initial, fun _ member => (List.not_mem_nil member).elim⟩
  exact stocked.books.caps

end Loads

set_option maxRecDepth 20000 in
/-- A registry with a source is within its caps after a crash and a load. -/
theorem caps_hold_reloaded :
    ∃ w : Deployment, w.registry.sources.size = 1 ∧ Caps {} w.registry := by
  have reloaded : (runGuarded Deployment.step (keepsConfig {}) [.call registerHost, .save true,
      .crash {}, .load 0 {} stillClock] (Deployment.fresh {})).any
        (fun w => w.registry.sources.size = 1) = true := by decide +kernel
  obtain ⟨w, reached, single⟩ := Run.exists_ofGuarded reloaded
  exact ⟨w, of_decide_eq_true single, caps_hold (by decide) reached⟩

end TransceiverRegistry

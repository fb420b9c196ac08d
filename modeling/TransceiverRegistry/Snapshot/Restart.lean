import TransceiverRegistry.Registry.Queries
import TransceiverRegistry.Registry.Operation
import TransceiverRegistry.Snapshot.Rebuilt

/-!
# Decisions across restarts

Port of `Registry::verify_generation` and `Registry::verify_decision` of `registry.cpp`, over a
process that saves its registry, crashes, and starts again from what was saved. A decision carries
the generation it was taken at and nothing else about the state, so it is fenced as long as no
generation is used for two states.
-/

namespace TransceiverRegistry

open Lib

/-- Refuse an expected generation that is not the current one
(source `Registry::verify_generation`). -/
def verifyGeneration (s : State) (expected : Generation) : Result Unit :=
  refuseIf (expected ≠ 0 ∧ expected ≠ s.generation) ⟨.staleGeneration,
    text "the decision was taken at generation " ++ decimal expected.toNat ++
      text " but the registry is at generation " ++ decimal s.generation.toNat⟩

/-- Refuse a decision of another generation (source `Registry::verify_decision`). -/
def verifyDecision (s : State) (decision : CompatDecision) : Result Unit :=
  verifyGeneration s decision.generation

/-- A process with a registry, and the snapshots that were saved so far. -/
structure Deployment where
  config : RegistryConfig
  registry : State
  files : List Bytes

/-- What happens to a registry and its snapshots. -/
inductive Event where
  | call (call : Call)
  | save (includeHistory : Bool)
  /-- The process ends, and the next one starts with a new registry. -/
  | crash (config : RegistryConfig)
  | load (file : Nat) (options : LoadOptions) (clock : Clock)

/-- A new registry, and no snapshot. -/
def Deployment.fresh (config : RegistryConfig) : Deployment := ⟨config, .initial, []⟩

/-- The registry holds the same modules, ports, rules and sources. -/
structure SameKnowledge (s s' : State) : Prop where
  modules : s'.modules = s.modules
  ports : s'.ports = s.ports
  rules : s'.rules = s.rules
  sources : s'.sources = s.sources

/-- No state of the past is at a later generation, and there is a next one. -/
def newest (past : List State) (generation : Generation) : Bool :=
  past.all (fun t => t.generation ≤ generation) && generation ≠ 0xFFFFFFFFFFFFFFFF

/-- The registry that is changed, or the snapshot that is loaded, is at the newest generation of the
past. -/
def keepsUp (w : Deployment × List State) : Event → Bool
  | .call _ => newest w.2 w.1.registry.generation
  | .load file _ _ => w.1.files[file]?.all fun bytes => newest w.2 (declaredGeneration bytes)
  | _ => true

/-- Calls are made on such registries only, and only such registries are saved. -/
def keepsStates (callable savable : State → Bool) (w : Deployment) : Event → Bool
  | .call _ => callable w.registry
  | .save _ => savable w.registry
  | .crash _ => true
  | .load _ _ _ => true

section Steps

variable [StdSort]

/-- The process after an event that succeeded. -/
def Deployment.step (w : Deployment) : Event → Option Deployment
  | .call call => (TransceiverRegistry.step w.config w.registry call).map fun s =>
    { w with registry := s }
  | .save includeHistory =>
    some { w with files := w.files ++ [snapshotFile w.registry includeHistory] }
  | .crash config => some { w with config, registry := .initial }
  | .load file options clock => do
    let bytes ← w.files[file]?
    let (s, _) ← (loadSnapshot clock options bytes w.registry).toOption
    some { w with registry := s }

/-- The registry has a property, and every registry that was saved had it and could be saved. -/
structure Upholds (P : State → Prop) (savable : State → Bool) (w : Deployment) : Prop where
  current : P w.registry
  saved : ∀ bytes ∈ w.files, ∃ s includeHistory, bytes = snapshotFile s includeHistory ∧
    savable s = true ∧ P s

/-- What a new registry has, and calls on such registries and loads of such snapshots keep, is kept
by every event. -/
lemma Upholds.step {P : State → Prop} {callable savable : State → Bool} {w w' : Deployment}
    (upholds : Upholds P savable w) (initial : P .initial)
    (call : ∀ config s call s', callable s = true → step config s call = some s' → P s → P s')
    (load : ∀ saved includeHistory parsed now, savable saved = true →
      Rebuilt saved includeHistory parsed → P saved → P (parsed.restore now)) {event : Event}
    (kept : keepsStates callable savable w event = true) (taken : w.step event = some w') :
    Upholds P savable w' := by
  cases event with
  | call c =>
    obtain ⟨s', committed, rfl⟩ := Option.map_eq_some_iff.1 taken
    exact { upholds with current := call _ _ _ _ kept committed upholds.current }
  | save includeHistory =>
    cases taken
    refine { upholds with saved := fun bytes member => ?_ }
    obtain earlier | now := List.mem_append.1 member
    · exact upholds.saved bytes earlier
    · exact ⟨w.registry, includeHistory, List.mem_singleton.1 now, kept, upholds.current⟩
  | crash config =>
    cases taken
    exact { upholds with current := initial }
  | load file options clock =>
    obtain ⟨bytes, held, moved⟩ := Option.bind_eq_some_iff.1 taken
    obtain ⟨⟨s', report⟩, loaded, final⟩ := Option.bind_eq_some_iff.1 moved
    cases final
    obtain ⟨saved, includeHistory, rfl, could, has⟩ :=
      upholds.saved bytes (List.mem_of_getElem? held)
    obtain ⟨parsed, rebuilt, rfl⟩ := loadSnapshot_written (toOption_eq_some.1 loaded)
    exact { upholds with current := load _ _ _ _ could rebuilt has }

/-- What a new registry has, and calls on such registries and loads of such snapshots keep, holds of
every registry that operations, saves, crashes and loads reach. -/
lemma Run.upheld {P : State → Prop} {callable savable : State → Bool} {w : Deployment}
    {config : RegistryConfig}
    (reached : Run Deployment.step (fun w event => keepsStates callable savable w event = true)
      (Deployment.fresh config) w) (initial : P .initial)
    (call : ∀ config s call s', callable s = true → step config s call = some s' → P s → P s')
    (load : ∀ saved includeHistory parsed now, savable saved = true →
      Rebuilt saved includeHistory parsed → P saved → P (parsed.restore now)) : P w.registry := by
  have start : Upholds P savable (Deployment.fresh config) :=
    ⟨initial, fun _ member => (List.not_mem_nil member).elim⟩
  exact (reached.invariant (Upholds P savable) start fun _ _ _ upholds kept taken =>
    upholds.step initial call load kept taken).current

/-- The registry and every registry that was saved have a property. -/
structure Persists (P : State → Prop) (w : Deployment) : Prop where
  current : P w.registry
  saved : ∀ bytes ∈ w.files, ∃ s includeHistory, bytes = snapshotFile s includeHistory ∧ P s

/-- What a new registry has, and calls and loads keep, is kept by every event. -/
lemma Persists.step {P : State → Prop} {w w' : Deployment} (persists : Persists P w)
    (initial : P .initial)
    (call : ∀ config s call s', step config s call = some s' → P s → P s')
    (load : ∀ saved includeHistory parsed now, Rebuilt saved includeHistory parsed → P saved →
      P (parsed.restore now)) {event : Event} (taken : w.step event = some w') : Persists P w' := by
  have upholds : Upholds P (fun _ => true) w := by
    refine ⟨persists.current, fun bytes member => ?_⟩
    obtain ⟨s, includeHistory, own, has⟩ := persists.saved bytes member
    exact ⟨s, includeHistory, own, rfl, has⟩
  have allowed : keepsStates (fun _ => true) (fun _ => true) w event = true := by
    cases event <;> rfl
  have kept := upholds.step initial (fun config s c s' _ => call config s c s')
    (fun saved includeHistory parsed now _ => load saved includeHistory parsed now) allowed taken
  refine ⟨kept.current, fun bytes member => ?_⟩
  obtain ⟨s, includeHistory, own, _, has⟩ := kept.saved bytes member
  exact ⟨s, includeHistory, own, has⟩

/-- What a new registry has, and calls and loads keep, holds of every registry that operations,
saves, crashes and loads reach. -/
lemma Run.deployed {P : State → Prop} {w : Deployment} {config : RegistryConfig}
    (reached : Run Deployment.step Unguarded (Deployment.fresh config) w) (initial : P .initial)
    (call : ∀ config s call s', step config s call = some s' → P s → P s')
    (load : ∀ saved includeHistory parsed now, Rebuilt saved includeHistory parsed → P saved →
      P (parsed.restore now)) : P w.registry := by
  have start : Persists P (Deployment.fresh config) :=
    ⟨initial, fun _ member => (List.not_mem_nil member).elim⟩
  exact (reached.invariant (Persists P) start fun _ _ _ persists _ taken =>
    persists.step initial call load taken).current

/-- The process, and the states its registries were in. -/
def Deployment.logged : Deployment × List State → Event → Option (Deployment × List State) :=
  withHistory Deployment.step fun _ _ w' => [w'.registry]

/-- The start of a process, and the state of its registry. -/
def Deployment.start (config : RegistryConfig) : Deployment × List State :=
  (.fresh config, [.initial])

/-- No two states of the past have one generation. -/
structure Fenced (w : Deployment × List State) : Prop where
  current : w.1.registry ∈ w.2
  initial : State.initial ∈ w.2
  saved : ∀ bytes ∈ w.1.files, ∃ s includeHistory, bytes = snapshotFile s includeHistory
  unique : ∀ t ∈ w.2, ∀ u ∈ w.2, t.generation = u.generation → t = u

variable {w w' : Deployment × List State} {s s' : State} {past : List State}

omit [StdSort] in
/-- The generation after the newest one is new. -/
lemma lt_of_newest {generation : Generation} (h : newest past generation = true) {t : State}
    (member : t ∈ past) : t.generation < generation + 1 := by
  simp only [newest, Bool.and_eq_true, List.all_eq_true, decide_eq_true_eq] at h
  obtain ⟨later, room⟩ := h
  exact UInt64.lt_of_le_of_lt (later t member) (lt_next room)

/-- What is parsed of a written file is at the generation of the saved state
(source `parse_snapshot`). -/
lemma Rebuilt.generation {saved parsed : State} {includeHistory : Bool}
    (rebuilt : Rebuilt saved includeHistory parsed) : parsed.generation = saved.generation := by
  cases rebuilt with
  | blank => rfl
  | front => rfl

/-- A loaded registry is at the generation after that of the file (source `load_snapshot`, the last
locked block). -/
lemma loadSnapshot_generation {clock : Clock} {options : LoadOptions} {saved : State}
    {includeHistory : Bool} {report : LoadReport}
    (h : loadSnapshot clock options (snapshotFile saved includeHistory) s = .ok (s', report)) :
    s'.generation = declaredGeneration (snapshotFile saved includeHistory) + 1 := by
  obtain ⟨parsed, rebuilt, rfl⟩ := loadSnapshot_written h
  rw [declaredGeneration_snapshotFile, ← rebuilt.generation]
  rfl

/-- A registry is at a state it was at, or at one later than all of them. -/
lemma Fenced.log (h : Fenced w) {d : Deployment}
    (saved : ∀ bytes ∈ d.files, ∃ s includeHistory, bytes = snapshotFile s includeHistory)
    (known : d.registry ∈ w.2 ∨ ∀ t ∈ w.2, t.generation < d.registry.generation) :
    Fenced (d, w.2 ++ [d.registry]) := by
  refine ⟨List.mem_append_right _ List.mem_cons_self, List.mem_append_left _ h.initial, saved, ?_⟩
  have only (t : State) (member : t ∈ w.2) (same : t.generation = d.registry.generation) :
      t = d.registry := by
    obtain before | later := known
    · exact h.unique t member _ before same
    · exact absurd (later t member) (by rw [same]; exact UInt64.lt_irrefl _)
  intro t inPast u inPast' same
  obtain earlier | now := List.mem_append.1 inPast <;>
    obtain earlier' | now' := List.mem_append.1 inPast'
  · exact h.unique t earlier u earlier' same
  · cases List.mem_singleton.1 now'
    exact only t earlier same
  · cases List.mem_singleton.1 now
    exact (only u earlier' same.symm).symm
  · rw [List.mem_singleton.1 now, List.mem_singleton.1 now']

/-- An event at the newest generation gives no generation to two states. -/
lemma Fenced.step (h : Fenced w) {event : Event} (upToDate : keepsUp w event = true)
    (taken : Deployment.logged w event = some w') : Fenced w' := by
  obtain ⟨moved, log⟩ := withHistory_eq_some.1 taken
  obtain ⟨d, past⟩ := w'
  obtain rfl : past = w.2 ++ [d.registry] := log
  cases event with
  | call call =>
    obtain ⟨s', committed, rfl⟩ := Option.map_eq_some_iff.1 moved
    obtain ⟨_, next, _, rfl⟩ := step_eq_some committed
    exact h.log h.saved (.inr fun t => lt_of_newest upToDate)
  | save includeHistory =>
    cases moved
    refine h.log (fun bytes member => ?_) (.inl h.current)
    obtain earlier | now := List.mem_append.1 member
    · exact h.saved bytes earlier
    · exact ⟨_, includeHistory, List.mem_singleton.1 now⟩
  | crash config =>
    cases moved
    exact h.log h.saved (.inl h.initial)
  | load file options clock =>
    obtain ⟨bytes, held, moved⟩ := Option.bind_eq_some_iff.1 moved
    obtain ⟨⟨s', report⟩, loaded, moved⟩ := Option.bind_eq_some_iff.1 moved
    cases moved
    rw [keepsUp, held] at upToDate
    obtain ⟨saved, includeHistory, rfl⟩ := h.saved bytes (List.mem_of_getElem? held)
    have generation := loadSnapshot_generation (toOption_eq_some.1 loaded)
    refine h.log h.saved (.inr fun t member => ?_)
    rw [generation]
    exact lt_of_newest upToDate member

/-- No generation is given to two states of a run at the newest generation. -/
lemma Fenced.run {config : RegistryConfig}
    (reached : Run Deployment.logged (fun w event => keepsUp w event = true)
      (Deployment.start config) w) : Fenced w := by
  refine reached.invariant Fenced ?_ fun w event w' fenced => fenced.step
  refine ⟨List.mem_cons_self, List.mem_cons_self,
    fun _ member => (List.not_mem_nil member).elim, ?_⟩
  intro t inPast u inPast' _
  rw [List.mem_singleton.1 inPast, List.mem_singleton.1 inPast']

/-- A decision is about a state with the module, and is stamped with its generation
(source `Registry::query_compatibility`). -/
lemma queryCompatibility_generation {now : WallNs} {domain : ClockDomainId} {query : CompatQuery}
    {decision : CompatDecision} (decided : queryCompatibility now domain s query = .ok decision) :
    s ≠ .initial ∧ decision.generation = s.generation := by
  simp only [queryCompatibility, queriedModule, bind_eq_ok, refuseIf_eq_ok,
    orRefuse_eq_ok] at decided
  obtain ⟨_, _, _, _, _, _, record, ⟨_, found, _⟩, decided⟩ := decided
  refine ⟨?_, (congrArg CompatDecision.generation (Except.ok.inj decided)).symm⟩
  rintro rfl
  cases found

/-- In every run whose events are at the newest generation of the run: a decision that was taken in
some state, and that is verified in that state or a later one, is verified in a state that holds the
same modules, ports, rules and sources (source `Registry::verify_decision`). -/
theorem verified_decision_sound {config : RegistryConfig}
    (before : Run Deployment.logged (fun w event => keepsUp w event = true)
      (Deployment.start config) w)
    (after : Run Deployment.logged (fun w event => keepsUp w event = true) w w')
    {now : WallNs} {domain : ClockDomainId} {query : CompatQuery} {decision : CompatDecision}
    (decided : queryCompatibility now domain w.1.registry query = .ok decision)
    (verified : verifyDecision w'.1.registry decision = .ok ()) :
    SameKnowledge w.1.registry w'.1.registry := by
  obtain ⟨started, stamp⟩ := queryCompatibility_generation decided
  have fenced := Fenced.run (before.trans after)
  have past := after.history_prefix.subset (Fenced.run before).current
  rw [verifyDecision, verifyGeneration, refuseIf_eq_ok, stamp] at verified
  have stamped : w.1.registry.generation ≠ 0 :=
    fun zero => started (fenced.unique _ past _ fenced.initial zero)
  have same : w.1.registry.generation = w'.1.registry.generation :=
    not_not.1 fun differ => verified ⟨stamped, differ⟩
  rw [fenced.unique _ past _ fenced.current same]
  exact ⟨rfl, rfl, rfl, rfl⟩

/-- Every generation up to that of a state of the past was used, and every snapshot was taken of a
state of the past. -/
structure Contiguous (w : Deployment × List State) : Prop where
  current : w.1.registry ∈ w.2
  initial : State.initial ∈ w.2
  saved : ∀ bytes ∈ w.1.files, ∃ s ∈ w.2, ∃ includeHistory, bytes = snapshotFile s includeHistory
  used : ∀ t ∈ w.2, ∀ g < t.generation, ∃ u ∈ w.2, u.generation = g

omit [StdSort] in
/-- What is before the next number is before this one or is this one. -/
lemma lt_or_eq_of_lt_next {g n : Generation} (h : g < n + 1) : g < n ∨ g = n := by
  have below : g.toNat < (n.toNat + 1) % 2 ^ 64 := by
    rw [UInt64.lt_iff_toNat_lt, UInt64.toNat_add] at h
    exact h
  obtain earlier | same := Nat.lt_or_eq_of_le (show g.toNat ≤ n.toNat by omega)
  · exact .inl (UInt64.lt_iff_toNat_lt.2 earlier)
  · exact .inr (UInt64.toNat_inj.1 same)

omit [StdSort] in
/-- The next number after a smaller one is not above the larger one. -/
lemma lt_or_eq_of_next_le {g n : Generation} (h : g < n) : g + 1 < n ∨ g + 1 = n := by
  have below := UInt64.lt_iff_toNat_lt.1 h
  have bound := n.toNat_lt
  have next : (g + 1).toNat = g.toNat + 1 := by
    rw [UInt64.toNat_add]
    exact Nat.mod_eq_of_lt (show g.toNat + 1 < 2 ^ 64 by omega)
  obtain earlier | same := Nat.lt_or_eq_of_le (show (g + 1).toNat ≤ n.toNat by omega)
  · exact .inl (UInt64.lt_iff_toNat_lt.2 earlier)
  · exact .inr (UInt64.toNat_inj.1 same)

/-- The registry is at a state of the past, or at the generation after one. -/
lemma Contiguous.log (h : Contiguous w) {d : Deployment}
    (saved : ∀ bytes ∈ d.files, ∃ s ∈ w.2 ++ [d.registry], ∃ includeHistory,
      bytes = snapshotFile s includeHistory)
    (known : ∃ t ∈ w.2, d.registry = t ∨ d.registry.generation = t.generation + 1) :
    Contiguous (d, w.2 ++ [d.registry]) := by
  refine ⟨List.mem_append_right _ List.mem_cons_self, List.mem_append_left _ h.initial, saved, ?_⟩
  have before (g : Generation) (below : g < d.registry.generation) :
      ∃ u ∈ w.2, u.generation = g := by
    obtain ⟨t, member, rfl | next⟩ := known
    · exact h.used _ member g below
    · obtain earlier | same := lt_or_eq_of_lt_next (next ▸ below)
      · exact h.used t member g earlier
      · exact ⟨t, member, same.symm⟩
  intro t member g below
  have some_earlier : ∃ u ∈ w.2, u.generation = g := by
    obtain earlier | now := List.mem_append.1 member
    · exact h.used t earlier g below
    · rw [List.mem_singleton.1 now] at below
      exact before g below
  obtain ⟨u, earlier, own⟩ := some_earlier
  exact ⟨u, List.mem_append_left _ earlier, own⟩

/-- Every event uses the next generation of a state of the past, or none. -/
lemma Contiguous.step (h : Contiguous w) {event : Event}
    (taken : Deployment.logged w event = some w') : Contiguous w' := by
  obtain ⟨moved, log⟩ := withHistory_eq_some.1 taken
  obtain ⟨d, past⟩ := w'
  obtain rfl : past = w.2 ++ [d.registry] := log
  have kept : ∀ bytes ∈ w.1.files, ∃ s ∈ w.2 ++ [d.registry], ∃ includeHistory,
      bytes = snapshotFile s includeHistory := fun bytes member =>
    (h.saved bytes member).imp fun s of => ⟨List.mem_append_left _ of.1, of.2⟩
  cases event with
  | call call =>
    obtain ⟨s', committed, rfl⟩ := Option.map_eq_some_iff.1 moved
    obtain ⟨_, next, _, rfl⟩ := step_eq_some committed
    exact h.log kept ⟨_, h.current, .inr rfl⟩
  | save includeHistory =>
    cases moved
    refine h.log (fun bytes member => ?_) ⟨_, h.current, .inl rfl⟩
    obtain earlier | now := List.mem_append.1 member
    · exact kept bytes earlier
    · exact ⟨_, List.mem_append_left _ h.current, includeHistory, List.mem_singleton.1 now⟩
  | crash config =>
    cases moved
    exact h.log kept ⟨_, h.initial, .inl rfl⟩
  | load file options clock =>
    obtain ⟨bytes, held, moved⟩ := Option.bind_eq_some_iff.1 moved
    obtain ⟨⟨s', report⟩, loaded, moved⟩ := Option.bind_eq_some_iff.1 moved
    cases moved
    obtain ⟨saved, member, includeHistory, rfl⟩ := h.saved bytes (List.mem_of_getElem? held)
    have generation := loadSnapshot_generation (toOption_eq_some.1 loaded)
    rw [declaredGeneration_snapshotFile] at generation
    exact h.log kept ⟨saved, member, .inr generation⟩

/-- An event that is not at the newest generation gives the generation of a state of the past to
another one (source `State::generation`). -/
theorem generation_reused {config : RegistryConfig} {event : Event}
    (reached : Run Deployment.logged Unguarded (Deployment.start config) w)
    (late : keepsUp w event = false) (taken : Deployment.logged w event = some w') :
    ∃ t ∈ w.2, t.generation = w'.1.registry.generation := by
  have contiguous : Contiguous w := by
    refine reached.invariant Contiguous ?_ fun w event w' contiguous _ => contiguous.step
    refine ⟨List.mem_cons_self, List.mem_cons_self,
      fun _ member => (List.not_mem_nil member).elim, fun t member g below => ?_⟩
    rw [List.mem_singleton.1 member] at below
    exact absurd below (by simp [State.initial])
  have reused (generation : Generation) (old : newest w.2 generation = false) :
      ∃ t ∈ w.2, t.generation = generation + 1 := by
    simp only [newest, Bool.and_eq_false_iff, List.all_eq_false, decide_eq_true_eq,
      UInt64.not_le, decide_eq_false_iff_not, not_not] at old
    obtain ⟨t, member, later⟩ | rfl := old
    · obtain earlier | same := lt_or_eq_of_next_le later
      · exact contiguous.used t member _ earlier
      · exact ⟨t, member, same.symm⟩
    · exact ⟨_, contiguous.initial, rfl⟩
  obtain ⟨moved, -⟩ := withHistory_eq_some.1 taken
  cases event with
  | call call =>
    obtain ⟨s', committed, moved⟩ := Option.map_eq_some_iff.1 moved
    obtain ⟨_, next, _, rfl⟩ := step_eq_some committed
    rw [← moved]
    exact reused _ late
  | save includeHistory => cases late
  | crash config => cases late
  | load file options clock =>
    obtain ⟨bytes, held, moved⟩ := Option.bind_eq_some_iff.1 moved
    obtain ⟨⟨s', report⟩, loaded, final⟩ := Option.bind_eq_some_iff.1 moved
    obtain ⟨saved, _, includeHistory, rfl⟩ := contiguous.saved bytes (List.mem_of_getElem? held)
    have generation := loadSnapshot_generation (toOption_eq_some.1 loaded)
    rw [keepsUp, held] at late
    rw [← Option.some.inj final]
    exact generation ▸ reused _ late

end Steps

/-- Whether the module in the first bay may run in a port. -/
def askBayA : CompatQuery where
  port := key "p" (by decide)
  uid := 1
  incarnation := 1

/-- A decision about the module in the first bay can be taken, at the second generation. -/
def decidesBayA (s : State) : Bool :=
  s.generation = 2 && s.modules.contains 1 && (queryCompatibility 1 1 s askBayA).toOption.isSome

/-- A registry is saved, and then a module is registered. -/
def savedBefore : List Event :=
  [.call registerHost, .save true, .call (registerBay bayA .ensureCurrent)]

set_option maxRecDepth 20000 in
/-- A decision is verified while the registry is saved. -/
theorem verified_decision_sound_saved :
    ∃ (w w' : Deployment × List State) (decision : CompatDecision),
    queryCompatibility 1 1 w.1.registry askBayA = .ok decision ∧
    verifyDecision w'.1.registry decision = .ok () ∧
    SameKnowledge w.1.registry w'.1.registry := by
  have decided : (runGuarded Deployment.logged keepsUp savedBefore (Deployment.start {})).any
      (fun w => decidesBayA w.1.registry &&
        (runGuarded Deployment.logged keepsUp [.save false] w).any fun w' =>
          w'.1.registry.generation = 2) = true := by
    decide +kernel
  obtain ⟨w, before, decided⟩ := Run.exists_ofGuarded decided
  simp only [decidesBayA, Bool.and_eq_true, decide_eq_true_eq] at decided
  obtain ⟨⟨⟨generation, _⟩, decides⟩, more⟩ := decided
  obtain ⟨w', after, generation'⟩ := Run.exists_ofGuarded more
  obtain ⟨decision, decides⟩ := Option.isSome_iff_exists.1 decides
  have decides := toOption_eq_some.1 decides
  have verified : verifyDecision w'.1.registry decision = .ok () := by
    rw [verifyDecision, verifyGeneration, refuseIf_eq_ok,
      (queryCompatibility_generation decides).2, generation, of_decide_eq_true generation']
    exact fun refused => refused.2 rfl
  exact ⟨w, w', decision, decides, verified, verified_decision_sound before after decides verified⟩

set_option maxRecDepth 20000 in
/-- After a crash the snapshot is loaded at the generation of the lost registration, and a decision
about the lost module is verified (source `load_snapshot`, the last locked block). -/
theorem lost_decision_verified :
    ¬ ∀ (config : RegistryConfig) (w w' : Deployment × List State) (now : WallNs)
      (domain : ClockDomainId) (query : CompatQuery) (decision : CompatDecision),
      Run Deployment.logged Unguarded (Deployment.start config) w →
      Run Deployment.logged Unguarded w w' →
      queryCompatibility now domain w.1.registry query = .ok decision →
      verifyDecision w'.1.registry decision = .ok () →
      SameKnowledge w.1.registry w'.1.registry := by
  intro h
  have lost : (runActions Deployment.logged savedBefore (Deployment.start {})).any
      (fun w => decidesBayA w.1.registry &&
        (runActions Deployment.logged [.crash {}, .load 0 {} stillClock] w).any fun w' =>
          w'.1.registry.generation = 2 && !w'.1.registry.modules.contains 1) = true := by
    decide +kernel
  obtain ⟨w, before, decided⟩ := Run.exists_ofActions lost
  simp only [decidesBayA, Bool.and_eq_true, decide_eq_true_eq] at decided
  obtain ⟨⟨⟨generation, known⟩, decides⟩, more⟩ := decided
  obtain ⟨w', after, restored⟩ := Run.exists_ofActions more
  simp only [Bool.and_eq_true, decide_eq_true_eq, Bool.not_eq_true'] at restored
  obtain ⟨generation', unknown⟩ := restored
  obtain ⟨decision, decides⟩ := Option.isSome_iff_exists.1 decides
  have decides := toOption_eq_some.1 decides
  have verified : verifyDecision w'.1.registry decision = .ok () := by
    rw [verifyDecision, verifyGeneration, refuseIf_eq_ok,
      (queryCompatibility_generation decides).2, generation, generation']
    exact fun refused => refused.2 rfl
  have same := h {} w w' 1 1 askBayA decision before after decides verified
  rw [same.modules, known] at unknown
  cases unknown

end TransceiverRegistry

import TransceiverRegistry.Registry.TableStep
import TransceiverRegistry.Snapshot.Reload
import Mathlib.Logic.Function.Basic

/-!
# Loads and mutations of several threads

The sections of `load_snapshot` and the section of `RegistryImpl::mutate` of any number of threads,
interleaved in any order. A section under the mutex is one step, and so is reading and parsing the
file, which happens between the two sections of a load. A load is named by its number.
-/

namespace TransceiverRegistry

open Lib

/-- Where a load stands (source `load_snapshot`). -/
inductive LoadPoint where
  /-- Before the check that the registry is empty. -/
  | entering
  /-- Before the file is read. -/
  | checked
  /-- With the state of the file, its latches and its attachments revised. -/
  | parsed (state : State)
  | published
  | refused (error : Error)

/-- A registry that threads share, and the loads into it. -/
structure Shared where
  registry : State
  loads : Nat → LoadPoint

/-- A section of one of the threads. -/
inductive Section where
  /-- A mutation that succeeds (source `RegistryImpl::mutate`, the locked block). -/
  | mutate (call : Call)
  /-- The next section of a load, with the file it reads. -/
  | load (i : Nat) (file : Bytes) (options : LoadOptions) (clock : Clock)

/-- What a section did to the registry. -/
inductive Effect where
  | checked (i : Nat)
  | committed (call : Call)
  | published (i : Nat) (state : State)

/-- The mutation that was committed. -/
def Effect.call? : Effect → Option Call
  | .committed call => some call
  | _ => none

/-- A registry before any load. -/
def Shared.start (s : State) : Shared := ⟨s, fun _ => .entering⟩

/-- Put a load at a point. -/
def Shared.setLoad (w : Shared) (i : Nat) (point : LoadPoint) : Shared :=
  { w with loads := Function.update w.loads i point }

/-- What a section did, from the state it left. -/
def Shared.effect (_ : Shared) (action : Section) (w' : Shared) : List Effect :=
  match action with
  | .mutate call => [.committed call]
  | .load i _ _ _ => match w'.loads i with
    | .checked => [.checked i]
    | .published => [.published i w'.registry]
    | _ => []

/-- A load that is about to publish finds the registry empty. -/
def findsEmpty (w : Shared × List Effect) : Section → Bool
  | .mutate _ => true
  | .load i _ _ _ => match w.1.loads i with
    | .parsed _ => w.1.registry.isEmpty
    | _ => true

section Steps

variable [StdSort]

/-- The state of a file, its latches and its attachments revised (source `load_snapshot`, between
the locked blocks). -/
def parsedFile (clock : Clock) (options : LoadOptions) (file : Bytes) : Result State := do
  refuseIf (kMaxSnapshotBytes < file.length)
    (makeError .capacityExceeded "snapshot exceeds the maximum accepted size")
  let parsed ← parseSnapshot file options
  .ok (revalidateEvidence parsed.state (clock.wallNowNs 0)).dropDangling

/-- The next section of a load (source `load_snapshot`). -/
def Shared.loadStep (w : Shared) (i : Nat) (file : Bytes) (options : LoadOptions) (clock : Clock) :
    Option Shared :=
  match w.loads i with
  | .entering => some (w.setLoad i (if w.registry.isEmpty then .checked
      else .refused (makeError .conflict "a snapshot can only be loaded into an empty registry")))
  | .checked => some (w.setLoad i (match parsedFile clock options file with
      | .ok state => .parsed state
      | .error error => .refused error))
  | .parsed state => some { w.setLoad i .published with registry := state.reincarnate }
  | .published | .refused _ => none

/-- The threads take their sections in any order. -/
def Shared.step (config : RegistryConfig) (w : Shared) : Section → Option Shared
  | .mutate call => (TransceiverRegistry.step config w.registry call).map fun s =>
    { w with registry := s }
  | .load i file options clock => w.loadStep i file options clock

/-- The threads, and what their sections did. -/
def Shared.logged (config : RegistryConfig) :
    Shared × List Effect → Section → Option (Shared × List Effect) :=
  withHistory (Shared.step config) Shared.effect

/-- No load replaces a mutation that was committed after its check, and the registry is at the state
after all committed mutations, in their order. -/
structure KeepsCommits (config : RegistryConfig) (start : State) (w : Shared × List Effect) :
    Prop where
  undisturbed : ∀ earlier since later i s,
    w.2 = earlier ++ .checked i :: since ++ .published i s :: later →
    ∀ call, .committed call ∉ since
  reflected : ∃ base, (base = start ∨ ∃ i, .published i base ∈ w.2) ∧
    runActions (TransceiverRegistry.step config) (w.2.filterMap Effect.call?) base =
      some w.1.registry

/-- What is kept of the mutations: they left the registry with something in it, no load published
after one of them, and the registry is at the state after all of them. -/
structure Committed (config : RegistryConfig) (start : State) (w : Shared × List Effect) :
    Prop where
  filled : ∀ call, .committed call ∈ w.2 → w.1.registry.isEmpty = false
  last : w.2.Pairwise fun a b => a.call? ≠ none → ∀ i s, b ≠ .published i s
  reflected : ∃ base, (base = start ∨ ∃ i, .published i base ∈ w.2) ∧
    runActions (TransceiverRegistry.step config) (w.2.filterMap Effect.call?) base =
      some w.1.registry

variable {config : RegistryConfig} {s s' start : State} {w w' : Shared × List Effect}
  {clock : Clock} {options : LoadOptions} {file : Bytes}

/-- A load that nobody interrupts is a load (source `load_snapshot`). -/
theorem load_alone {report : LoadReport} {d : Shared} {i : Nat} (entering : d.loads i = .entering)
    (loaded : loadSnapshot clock options file d.registry = .ok (s', report)) :
    ∃ d', runActions (Shared.step config)
        (List.replicate 3 (.load i file options clock)) d = some d' ∧ d'.registry = s' := by
  obtain ⟨empty, small, parsed, parse, rfl, _⟩ := loadSnapshot_eq_ok.1 loaded
  have read : parsedFile clock options file =
      .ok (revalidateEvidence parsed.state (clock.wallNowNs 0)).dropDangling := by
    rw [parsedFile, refuseIf_of_not (Nat.not_lt.2 small), parse]
    rfl
  simp [List.replicate, runActions, Shared.step, Shared.loadStep, Shared.setLoad, entering, empty,
    read, State.restore]

omit [StdSort] in
/-- A live source is registered (source `source_is_live`). -/
lemma sources_ne_empty {source : SourceId} {epoch : SourceEpoch}
    (live : sourceIsLive s source epoch = true) : s.sources ≠ ∅ := by
  intro empty
  rw [sourceIsLive, empty, Std.ExtTreeMap.getElem?_empty] at live
  cases live

/-- An operation that registers no source names one that is registered
(source `require_authority`). -/
lemma authority_of_body {operation : Operation} {generation : Generation} {sequence : Sequence}
    (other : ∀ descriptor policy, operation ≠ .registerSource descriptor policy)
    (run : operation.body config clock s generation sequence = .ok s') :
    ∃ authority, requireAuthority s authority = .ok () := by
  cases operation <;> rw [Operation.body, fst_map_eq_ok] at run <;> obtain ⟨result, run⟩ := run
  case registerSource descriptor policy => exact absurd rfl (other descriptor policy)
  case registerModule => exact ⟨_, (registerModuleBody_inv run).1⟩
  case updateIdentity => exact ⟨_, (updateIdentityBody_inv run).1⟩
  case publishCapability => exact ⟨_, (publishCapabilityBody_inv run).1⟩
  case publishPortCapability =>
    obtain ⟨auth, _⟩ := publishPortCapabilityBody_inv run
    exact ⟨_, auth⟩
  case attach => exact ⟨_, (attachBody_inv run).1⟩
  case detach => exact ⟨_, (detachBody_inv run).1⟩
  case ingestHealth => exact ⟨_, (ingestHealthBody_inv run).1⟩
  case publishThreshold => exact ⟨_, (publishThresholdBody_inv run).1⟩
  case publishRule => exact ⟨_, (publishRuleBody_inv run).1⟩
  case retireRule => exact ⟨_, (retireRuleBody_inv run).1⟩
  case transition => exact ⟨_, (transitionBody_inv run).1⟩
  case reconcileLifecycle => exact ⟨_, (reconcileLifecycleBody_inv run).1⟩

/-- An operation keeps the sources or writes one. -/
lemma TableStep.sources {generation : Generation} {sequence : Sequence}
    (writes : TableStep config s generation sequence s') :
    s'.sources = s.sources ∨ ∃ id record, s'.sources = s.sources.insert id record := by
  cases writes with
  | renewSource | addSource => exact .inr ⟨_, _, rfl⟩
  | _ => exact .inl rfl

/-- After a mutation a source is registered. -/
lemma sources_of_body {operation : Operation} {generation : Generation} {sequence : Sequence}
    (run : operation.body config clock s generation sequence = .ok s') : s'.sources ≠ ∅ := by
  by_cases other : ∀ descriptor policy, operation ≠ .registerSource descriptor policy
  · obtain same | ⟨id, record, written⟩ := (tableStep_of_body run).sources
    · obtain ⟨authority, auth⟩ := authority_of_body other run
      rw [same]
      exact sources_ne_empty (requireAuthority_eq_ok.1 auth).2
    · rw [written]
      exact Std.ExtTreeMap.insert_ne_empty
  · push Not at other
    obtain ⟨descriptor, policy, rfl⟩ := other
    obtain ⟨handle, run⟩ := fst_map_eq_ok.1 run
    obtain ⟨id, record, epoch, _, _, _, rfl⟩ | ⟨_, _, _, rfl⟩ := registerSourceBody_inv run
    · exact Std.ExtTreeMap.insert_ne_empty
    · exact Std.ExtTreeMap.insert_ne_empty

/-- A mutation leaves a registry that a load refuses (source `load_snapshot`, the first locked
block). -/
lemma isEmpty_of_step {call : Call} (taken : TransceiverRegistry.step config s call = some s') :
    s'.isEmpty = false := by
  obtain ⟨_, next, run, rfl⟩ := step_eq_some taken
  have filled : next.sources.isEmpty = false :=
    Std.ExtTreeMap.isEmpty_eq_false_iff.2 (sources_of_body run)
  simp [State.isEmpty, State.publish, filled]

/-- What a load did, by where it stood (source `load_snapshot`). -/
lemma loadStep_cases {d d' : Shared} {i : Nat} (taken : d.loadStep i file options clock = some d') :
    (d'.registry = d.registry ∧ (d.effect (.load i file options clock) d' = [] ∨
      d.effect (.load i file options clock) d' = [.checked i])) ∨
    ∃ state, d.loads i = .parsed state ∧ d'.registry = state.reincarnate ∧
      d.effect (.load i file options clock) d' = [.published i d'.registry] := by
  unfold Shared.loadStep at taken
  cases point : d.loads i with
  | entering =>
    rw [point] at taken
    cases taken
    refine .inl ⟨rfl, ?_⟩
    by_cases empty : d.registry.isEmpty = true
    · exact .inr (by simp [Shared.effect, Shared.setLoad, empty])
    · exact .inl (by simp [Shared.effect, Shared.setLoad, empty])
  | checked =>
    rw [point] at taken
    cases taken
    refine .inl ⟨rfl, .inl ?_⟩
    cases read : parsedFile clock options file with
    | ok state => simp [Shared.effect, Shared.setLoad]
    | error error => simp [Shared.effect, Shared.setLoad]
  | parsed state =>
    rw [point] at taken
    cases taken
    exact .inr ⟨state, rfl, rfl, by simp [Shared.effect, Shared.setLoad]⟩
  | published =>
    rw [point] at taken
    cases taken
  | refused error =>
    rw [point] at taken
    cases taken

/-- A commit is the last thing that happened to the registry. -/
lemma Committed.commit (h : Committed config start w) {d : Shared} {call : Call}
    (taken : TransceiverRegistry.step config w.1.registry call = some d.registry) :
    Committed config start (d, w.2 ++ [.committed call]) := by
  refine ⟨fun _ _ => isEmpty_of_step taken, ?_, ?_⟩
  · refine List.pairwise_append.2 ⟨h.last, List.pairwise_singleton _ _, ?_⟩
    intro a _ b now _ i s
    rw [List.mem_singleton.1 now]
    rintro ⟨⟩
  · obtain ⟨base, known, reached⟩ := h.reflected
    refine ⟨base, known.imp_right fun ⟨i, member⟩ => ⟨i, List.mem_append_left _ member⟩, ?_⟩
    rw [List.filterMap_append]
    exact runActions_concat reached taken

/-- A check keeps what was committed. -/
lemma Committed.check (h : Committed config start w) {d : Shared} {effects : List Effect}
    (same : d.registry = w.1.registry) (checks : ∀ a ∈ effects, ∃ i, a = .checked i) :
    Committed config start (d, w.2 ++ effects) := by
  have old {a : Effect} (other : ∀ i, a ≠ .checked i) (member : a ∈ w.2 ++ effects) : a ∈ w.2 := by
    obtain earlier | now := List.mem_append.1 member
    · exact earlier
    · obtain ⟨i, rfl⟩ := checks a now
      exact absurd rfl (other i)
  have calls : effects.filterMap Effect.call? = [] := by
    refine List.filterMap_eq_nil_iff.2 fun a member => ?_
    obtain ⟨i, rfl⟩ := checks a member
    rfl
  refine ⟨fun call member => ?_, List.pairwise_append.2 ⟨h.last, ?_, ?_⟩, ?_⟩
  · rw [same]
    exact h.filled call (old nofun member)
  · refine List.pairwise_of_forall_mem_list fun a member b _ commits => ?_
    obtain ⟨i, rfl⟩ := checks a member
    exact absurd rfl commits
  · rintro a _ b member - i s rfl
    obtain ⟨j, impossible⟩ := checks _ member
    cases impossible
  · obtain ⟨base, known, reached⟩ := h.reflected
    refine ⟨base, known.imp_right fun ⟨i, member⟩ => ⟨i, List.mem_append_left _ member⟩, ?_⟩
    rw [List.filterMap_append, calls, List.append_nil, same]
    exact reached

/-- A load that finds the registry empty replaces nothing that was committed. -/
lemma Committed.publish (h : Committed config start w) {d : Shared} {i : Nat}
    (empty : w.1.registry.isEmpty = true) :
    Committed config start (d, w.2 ++ [.published i d.registry]) := by
  have none_yet : ∀ a ∈ w.2, a.call? = none := by
    intro a member
    cases a with
    | committed call => exact absurd empty (by rw [h.filled call member]; exact Bool.false_ne_true)
    | _ => rfl
  refine ⟨fun call member => ?_, ?_, ?_⟩
  · obtain earlier | now := List.mem_append.1 member
    · cases none_yet _ earlier
    · cases List.mem_singleton.1 now
  · refine List.pairwise_append.2 ⟨h.last, List.pairwise_singleton _ _, ?_⟩
    exact fun a member b _ commits => absurd (none_yet a member) commits
  · refine ⟨d.registry, .inr ⟨i, List.mem_append_right _ List.mem_cons_self⟩, ?_⟩
    rw [List.filterMap_append, List.filterMap_eq_nil_iff.2 none_yet]
    rfl

/-- Every section keeps what was committed, when a load that publishes finds the registry empty. -/
lemma Committed.step (h : Committed config start w) {action : Section}
    (empty : findsEmpty w action = true) (taken : Shared.logged config w action = some w') :
    Committed config start w' := by
  obtain ⟨moved, log⟩ := withHistory_eq_some.1 taken
  obtain ⟨d, effects⟩ := w'
  obtain rfl : effects = w.2 ++ w.1.effect action d := log
  cases action with
  | mutate call =>
    obtain ⟨s', committed, rfl⟩ := Option.map_eq_some_iff.1 moved
    exact h.commit committed
  | load i file options clock =>
    obtain ⟨same, none | checks⟩ | ⟨state, point, _, publishes⟩ := loadStep_cases moved
    · rw [none]
      exact h.check same fun a member => (List.not_mem_nil member).elim
    · rw [checks]
      exact h.check same fun a member => ⟨i, List.mem_singleton.1 member⟩
    · rw [publishes]
      rw [findsEmpty, point] at empty
      exact h.publish empty

/-- In every run in which each load that publishes finds the registry empty: no load replaces a
mutation that was committed after its check, and the registry is at the state after all committed
mutations (source `load_snapshot`, `RegistryImpl::mutate`). -/
theorem loads_keep_commits (config : RegistryConfig) (start : State) (w : Shared × List Effect)
    (reached : Run (Shared.logged config) (fun w action => findsEmpty w action = true)
      (Shared.start start, []) w) : KeepsCommits config start w := by
  have kept : Committed config start w := by
    refine reached.invariant (Committed config start) ?_ fun w action w' h => h.step
    refine ⟨fun call member => (List.not_mem_nil member).elim, .nil, start, .inl rfl, rfl⟩
  refine ⟨fun earlier since later i s log call member => ?_, kept.reflected⟩
  have last := kept.last
  rw [log, List.append_assoc] at last
  have between := (List.pairwise_append.1 (List.pairwise_append.1 last).2.1).2.2
  have commits : (Effect.committed call).call? ≠ none := Option.some_ne_none call
  exact between _ (List.mem_cons_of_mem _ member) _ List.mem_cons_self commits i s rfl

end Steps

/-- The next section of a load of an empty registry. -/
def loadEmpty [StdSort] : Section := .load 0 (snapshotFile .initial true) {} stillClock

/-- A source is registered, and it is still there. -/
def keepsSource (w : Shared × List Effect) : Bool :=
  !w.2.isEmpty && !w.1.registry.sources.isEmpty

/-- A mutation was committed between the check and the publication of a load. -/
def committedBetween : List Effect → Bool
  | [.checked 0, .committed _, .published 0 _] => true
  | _ => false

set_option maxRecDepth 20000 in
/-- A source is registered after a load. -/
theorem loads_keep_commits_after : ∃ w, keepsSource w = true ∧ KeepsCommits {} .initial w := by
  have loaded : (runGuarded (Shared.logged {}) findsEmpty
      [loadEmpty, loadEmpty, loadEmpty, .mutate registerHost]
      (Shared.start .initial, [])).any keepsSource = true := by decide +kernel
  obtain ⟨w, reached, kept⟩ := Run.exists_ofGuarded loaded
  exact ⟨w, kept, loads_keep_commits {} .initial w reached⟩

set_option maxRecDepth 20000 in
/-- A source that is registered while a load reads its file is gone when the load publishes
(source `load_snapshot`, the two locked blocks). -/
theorem load_discards_commit :
    ¬ ∀ (config : RegistryConfig) (start : State) (w : Shared × List Effect),
      Run (Shared.logged config) Unguarded (Shared.start start, []) w →
      KeepsCommits config start w := by
  intro h
  have overlapping : (runActions (Shared.logged {})
      [loadEmpty, .mutate registerHost, loadEmpty, loadEmpty]
      (Shared.start .initial, [])).any (fun w => committedBetween w.2) = true := by decide +kernel
  obtain ⟨w, reached, between⟩ := Run.exists_ofActions overlapping
  have kept := h {} .initial w reached
  unfold committedBetween at between
  split at between
  · rename_i call s log
    exact kept.undisturbed [] [.committed call] [] 0 s log call List.mem_cons_self
  · cases between

end TransceiverRegistry

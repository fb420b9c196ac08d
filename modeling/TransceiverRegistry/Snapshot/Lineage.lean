import Mathlib.Data.List.Forall2
import TransceiverRegistry.Snapshot.Restart
import TransceiverRegistry.Snapshot.Whole

/-!
# What led to a registry

A registry is the result of the calls since its process began, and, when a snapshot was loaded, of those
that led to the snapshot. An account of these calls is kept beside the process and beside every
snapshot; what the calls and the loads of whole files preserve of a registry and its account holds of
every registry.
-/

namespace TransceiverRegistry

open Lib

/-- A process, with an account of the calls that led to its registry and of those that led to each
snapshot. -/
structure Lineage (γ : Type) where
  process : Deployment
  account : γ
  saved : List γ

/-- A new registry, with a blank account and no snapshot. -/
def Lineage.fresh {γ : Type} (blank : γ) (config : RegistryConfig) : Lineage γ :=
  ⟨.fresh config, blank, []⟩

section Steps

variable [StdSort] {γ : Type} {blank : γ} {extend : State → Call → State → γ → γ}

/-- The lineage after an event that succeeded: a call extends the account, and a load goes on with the
account of its snapshot. -/
def Lineage.step (blank : γ) (extend : State → Call → State → γ → γ) (w : Lineage γ) (event : Event) :
    Option (Lineage γ) :=
  (w.process.step event).map fun process =>
    match event with
    | .call call =>
      { w with process, account := extend w.process.registry call process.registry w.account }
    | .save _ => { w with process, saved := w.saved ++ [w.account] }
    | .crash _ => { w with process, account := blank }
    | .load file _ _ => { w with process, account := w.saved[file]?.getD blank }

/-- A call that succeeds extends the account. -/
lemma Lineage.step_call {w : Lineage γ} {call : Call} {s' : State}
    (taken : TransceiverRegistry.step w.process.config w.process.registry call = some s') :
    w.step blank extend (.call call) = some { w with
      process := { w.process with registry := s' }
      account := extend w.process.registry call s' w.account } := by
  rw [Lineage.step, Deployment.step, taken]
  rfl

/-- A load that succeeds goes on with the account of its snapshot. -/
lemma Lineage.step_load {w : Lineage γ} {file : Nat} {options : LoadOptions} {clock : Clock}
    {bytes : Bytes} {s' : State} {report : LoadReport} (read : w.process.files[file]? = some bytes)
    (loaded : loadSnapshot clock options bytes w.process.registry = .ok (s', report)) :
    w.step blank extend (.load file options clock) = some { w with
      process := { w.process with registry := s' }
      account := w.saved[file]?.getD blank } := by
  rw [Lineage.step, Deployment.step, read]
  simp only [Option.bind_eq_bind, Option.bind_some, loaded]
  rfl

/-- What is loaded is a whole file (source `LoadReport::tail_recovered`). -/
def loadsWhole (w : Deployment) (file : Nat) (options : LoadOptions) (clock : Clock) : Bool :=
  w.files[file]?.all fun bytes =>
    (loadSnapshot clock options bytes w.registry).toOption.all fun loaded => !loaded.2.tailRecovered

/-- Only such states are saved, only whole files are loaded, and a process starts with such a
configuration. -/
def keepsLineage (savable : State → Bool) (allowed : RegistryConfig → Bool) (w : Lineage γ) :
    Event → Bool
  | .call _ => true
  | .save _ => savable w.process.registry
  | .crash config => allowed config
  | .load file options clock => loadsWhole w.process file options clock

variable {P : State → γ → Prop} {savable : State → Bool} {allowed : RegistryConfig → Bool}
  {w w' : Lineage γ}

/-- A file was saved of a state that had the property, and that could be saved. -/
def SavedWith (P : State → γ → Prop) (savable : State → Bool) (bytes : Bytes) (account : γ) : Prop :=
  ∃ s includeHistory, bytes = snapshotFile s includeHistory ∧ savable s = true ∧ P s account

/-- The registry and every snapshot have the property. -/
structure Inherits (P : State → γ → Prop) (savable : State → Bool)
    (allowed : RegistryConfig → Bool) (w : Lineage γ) : Prop where
  config : allowed w.process.config = true
  current : P w.process.registry w.account
  saved : List.Forall₂ (SavedWith P savable) w.process.files w.saved

omit [StdSort] in
/-- An entry of one of two lists that go together has one in the other list. -/
lemma exists_getElem?_of_forall₂ {α β : Type} {R : α → β → Prop} {l : List α} {l' : List β}
    (together : List.Forall₂ R l l') {i : Nat} {a : α} (found : l[i]? = some a) :
    ∃ b, l'[i]? = some b ∧ R a b := by
  obtain ⟨inside, rfl⟩ := List.getElem?_eq_some_iff.1 found
  have inside' : i < l'.length := together.length_eq ▸ inside
  exact ⟨l'[i], List.getElem?_eq_getElem inside', together.get inside inside'⟩

/-- A run of calls is a lineage without snapshots. -/
lemma exists_lineage {config : RegistryConfig} {s : State}
    (reached : Run (TransceiverRegistry.step config) Unguarded .initial s) :
    ∃ w : Lineage γ, Run (Lineage.step blank extend)
        (fun w event => keepsLineage savable allowed w event = true) (.fresh blank config) w ∧
      w.process = ⟨config, s, []⟩ := by
  induction reached with
  | start => exact ⟨_, .start, rfl⟩
  | @next s call s' _ _ taken ih =>
    obtain ⟨w, lineage, process⟩ := ih
    have taken : TransceiverRegistry.step w.process.config w.process.registry call = some s' := by
      rw [process]
      exact taken
    refine ⟨_, lineage.next rfl (Lineage.step_call taken), ?_⟩
    show { w.process with registry := s' } = _
    rw [process]

/-- What a new registry has, and calls and loads keep, is kept by every event. -/
lemma Inherits.step (inherits : Inherits P savable allowed w) (initial : P .initial blank)
    (call : ∀ config s call s' account, allowed config = true → step config s call = some s' →
      P s account → P s' (extend s call s' account))
    (reload : ∀ s includeHistory now account, savable s = true → P s account →
      P ((s.reread includeHistory).restore now) account)
    {event : Event} (kept : keepsLineage savable allowed w event = true)
    (taken : w.step blank extend event = some w') : Inherits P savable allowed w' := by
  obtain ⟨process, moved, final⟩ := Option.map_eq_some_iff.1 taken
  cases event with
  | call c =>
    obtain ⟨s', committed, rfl⟩ := Option.map_eq_some_iff.1 moved
    cases final
    have holds := call _ _ _ _ _ inherits.config committed inherits.current
    exact ⟨inherits.config, holds, inherits.saved⟩
  | save includeHistory =>
    cases moved
    cases final
    have now : SavedWith P savable (snapshotFile w.process.registry includeHistory) w.account :=
      ⟨_, includeHistory, rfl, kept, inherits.current⟩
    exact ⟨inherits.config, inherits.current, List.rel_append inherits.saved (.cons now .nil)⟩
  | crash config' =>
    cases moved
    cases final
    exact ⟨kept, initial, inherits.saved⟩
  | load file options clock =>
    obtain ⟨bytes, read, moved⟩ := Option.bind_eq_some_iff.1 moved
    obtain ⟨⟨s', report⟩, loaded, rest⟩ := Option.bind_eq_some_iff.1 moved
    cases rest
    cases final
    simp only [keepsLineage, loadsWhole, read, Option.all_some, loaded, Bool.not_eq_true'] at kept
    obtain ⟨account, known, saved, includeHistory, rfl, held, has⟩ :=
      exists_getElem?_of_forall₂ inherits.saved read
    obtain rfl := loadSnapshot_whole (toOption_eq_some.1 loaded) kept
    refine ⟨inherits.config, ?_, inherits.saved⟩
    show P _ (w.saved[file]?.getD blank)
    rw [known]
    exact reload _ _ _ _ held has

/-- What a new registry has, and calls and loads keep, holds of every registry and the account of the
calls that led to it. -/
lemma Run.lineage {config : RegistryConfig}
    (reached : Run (Lineage.step blank extend)
      (fun w event => keepsLineage savable allowed w event = true) (.fresh blank config) w)
    (start : allowed config = true) (initial : P .initial blank)
    (call : ∀ config s call s' account, allowed config = true → step config s call = some s' →
      P s account → P s' (extend s call s' account))
    (reload : ∀ s includeHistory now account, savable s = true → P s account →
      P ((s.reread includeHistory).restore now) account) : P w.process.registry w.account :=
  (reached.invariant (Inherits P savable allowed) ⟨start, initial, .nil⟩
    fun _ _ _ inherits kept taken => inherits.step initial call reload kept taken).current

end Steps

end TransceiverRegistry

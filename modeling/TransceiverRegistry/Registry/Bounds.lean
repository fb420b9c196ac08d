import TransceiverRegistry.Registry.TableStep

/-!
# Bounds on what is stored

The lists of a module and of a port never exceed their budgets: each list that an operation writes
has just been trimmed.
-/

namespace TransceiverRegistry

open Lib

/-- The lists of a module are within their budgets (source `ModuleRecord`). -/
structure ModuleBounds (config : RegistryConfig) (record : ModuleRecord) : Prop where
  claims : record.claims.length ≤ config.maxClaimsPerModule.toNat
  declarations : record.declarations.length ≤ config.maxDeclarationsPerModule.toNat
  samples : record.samples.length ≤ config.maxSamplesPerModule.toNat

/-- The lists of every module and of every port are within their budgets (source `State`). -/
structure Bounded (config : RegistryConfig) (s : State) : Prop where
  modules : ∀ (uid : ModuleUid) (record : ModuleRecord),
    s.modules[uid]? = some record → ModuleBounds config record
  ports : ∀ (key : Bytes) (record : PortRecord),
    s.ports[key]? = some record → record.declarations.length ≤ config.maxDeclarationsPerPort.toNat

/-- A fresh registry stores nothing. -/
lemma Bounded.initial {config : RegistryConfig} : Bounded config State.initial where
  modules uid record found := by simp [State.initial] at found
  ports key record found := by simp [State.initial] at found

section Trim

variable [StdSort] {maxTotal maxHistory : UInt32}

/-- Trimmed claims meet their budget (source `trim_claims`). -/
lemma trimClaims_length_le {claims trimmed : List IdentityClaim}
    (h : trimClaims claims maxTotal maxHistory = .ok trimmed) :
    trimmed.length ≤ maxTotal.toNat := by
  simp only [trimClaims, bind_eq_ok] at h
  obtain ⟨kept, erased, e⟩ := h
  cases e
  exact (dropExcess_sublist _ _ _ _).length_le.trans (eraseSuperseded_length_le erased)

/-- Trimmed declarations meet their budget (source `trim_declarations`). -/
lemma trimDeclarations_length_le {declarations trimmed : List CapabilityDeclaration}
    (h : trimDeclarations declarations maxTotal maxHistory = .ok trimmed) :
    trimmed.length ≤ maxTotal.toNat := by
  simp only [trimDeclarations, bind_eq_ok] at h
  obtain ⟨kept, erased, e⟩ := h
  cases e
  exact (dropExcess_sublist _ _ _ _).length_le.trans (eraseSuperseded_length_le erased)

end Trim

/-- Trimmed samples meet their budget (source `trim_samples`, the last loop). -/
lemma trimSamples_length_le (config : RegistryConfig) (trim : SampleTrim) :
    (trimSamples config trim).samples.length ≤ config.maxSamplesPerModule.toNat := by
  simp only [trimSamples, List.length_drop]
  omega

variable [StdSort] {config : RegistryConfig} {s s' next : State} {generation : Generation}
  {sequence : Sequence} {old new : ModuleRecord}

/-- A record written over one within its budgets is within them. -/
lemma ModuleBounds.rewrite (bounds : ModuleBounds config old) (rewrites : Rewrites config old new) :
    ModuleBounds config new where
  claims := by
    obtain same | ⟨claims, trim⟩ := rewrites.claims
    · rw [same]
      exact bounds.claims
    · exact trimClaims_length_le trim
  declarations := by
    obtain same | ⟨declarations, trim⟩ := rewrites.declarations
    · rw [same]
      exact bounds.declarations
    · exact trimDeclarations_length_le trim
  samples := by
    obtain ⟨same, _⟩ | ⟨_, _, trim, rfl, stored, _⟩ := rewrites.samples
    · rw [same]
      exact bounds.samples
    · rw [stored]
      exact trimSamples_length_le _ _

omit [StdSort] in
/-- The bounds of the modules are kept when one of them is written. -/
lemma moduleBounds_insert {modules : ModuleTable} {uid : ModuleUid}
    (bounds : ∀ (uid : ModuleUid) (record : ModuleRecord), modules[uid]? = some record →
      ModuleBounds config record) (written : ModuleBounds config new) :
    ∀ (uid' : ModuleUid) (record : ModuleRecord), (modules.insert uid new)[uid']? = some record →
      ModuleBounds config record := by
  intro uid' record found
  obtain ⟨_, rfl⟩ | ⟨_, found⟩ := getElem?_insert_iff.1 found
  · exact written
  · exact bounds uid' record found

/-- What an operation does to the tables keeps the bounds. -/
lemma Bounded.tableStep (bounded : Bounded config s)
    (taken : TableStep config s generation sequence next) : Bounded config next := by
  cases taken with
  | renewSource => exact ⟨bounded.modules, bounded.ports⟩
  | addSource => exact ⟨bounded.modules, bounded.ports⟩
  | addModule unnamed room own empty rewrites =>
    refine ⟨moduleBounds_insert bounded.modules (ModuleBounds.rewrite ?_ rewrites), bounded.ports⟩
    obtain ⟨claims, declarations, samples, _⟩ := empty
    constructor
    · simp [claims]
    · simp [declarations]
    · simp [samples]
  | setModule found rewrites =>
    have kept := (bounded.modules _ _ found).rewrite rewrites
    exact ⟨moduleBounds_insert bounded.modules kept, bounded.ports⟩
  | slots => exact ⟨bounded.modules, bounded.ports⟩
  | port live located kept trim =>
    refine ⟨bounded.modules, fun key' record' found => ?_⟩
    obtain ⟨_, rfl⟩ | ⟨_, found⟩ := getElem?_insert_iff.1 found
    · exact eraseSuperseded_length_le trim
    · exact bounded.ports key' record' found
  | threshold => exact ⟨bounded.modules, bounded.ports⟩
  | addRule => exact ⟨bounded.modules, bounded.ports⟩
  | setRule => exact ⟨bounded.modules, bounded.ports⟩

/-- A step keeps the bounds (source `RegistryImpl::mutate`). -/
lemma Bounded.step {call : Call} (bounded : Bounded config s)
    (taken : step config s call = some s') : Bounded config s' := by
  obtain ⟨next, written, rfl⟩ := step_tableStep taken
  have kept : Bounded config next :=
    Bounded.tableStep (s := (nextSequence s).2) ⟨bounded.modules, bounded.ports⟩ written
  exact ⟨kept.modules, kept.ports⟩

/-- In every reachable state the lists of every module and of every port are within their
budgets. -/
theorem Bounded.run (reached : Run (TransceiverRegistry.step config) Unguarded State.initial s) :
    Bounded config s :=
  reached.invariant (Bounded config) Bounded.initial fun _ _ _ bounded _ taken => bounded.step taken

end TransceiverRegistry

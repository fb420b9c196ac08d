import TransceiverRegistry.Registry.Samples

/-!
# Replays

The registry refuses a reading that is not newer than a stored reading of the same source, series
and clock domain. It compares with what is still stored, so the readings it accepts increase as long
as what was evicted is not needed for the comparison.
-/

namespace TransceiverRegistry

open Lib

/-- Two samples belong to one series of one source in one clock domain (source
`Registry::ingest_health`, the comparison in the loop). -/
def HealthSample.SameSeries (a b : HealthSample) : Prop :=
  a.source = b.source ∧ a.module = b.module ∧ a.metric = b.metric ∧ a.lane = b.lane ∧
  a.clockDomain = b.clockDomain

instance (a b : HealthSample) : Decidable (a.SameSeries b) := by
  unfold HealthSample.SameSeries
  infer_instance

/-- The samples a successful call brings (source `Registry::ingest_health`). -/
def acceptedSamples (s : State) (call : Call) (_ : State) : List HealthSample :=
  match call.operation with
  | .ingestHealth authority module sample _ =>
    match s.modules[module.uid]? with
    | some record => [ingestedSample s call.clock authority record sample]
    | none => []
  | _ => []

/-- Non-zero readings of one series of one source in one clock domain increase. -/
def Increasing (accepted : List HealthSample) : Prop :=
  accepted.Pairwise fun a b => a.SameSeries b → a.observedAtMonotonicNs ≠ 0 →
    b.observedAtMonotonicNs ≠ 0 → a.observedAtMonotonicNs < b.observedAtMonotonicNs

instance (accepted : List HealthSample) : Decidable (Increasing accepted) :=
  List.instDecidablePairwise accepted

/-- No reading is offered that is not newer than an accepted one of its series, source and clock
domain, when that one and all as new were evicted. -/
def NothingForgotten (accepted : List HealthSample) (s : State) (call : Call) : Prop :=
  match call.operation with
  | .ingestHealth authority module sample _ => ∀ record ∈ s.modules[module.uid]?,
      (ingestedSample s call.clock authority record sample).observedAtMonotonicNs ≠ 0 →
      ∀ a ∈ accepted, a.SameSeries (ingestedSample s call.clock authority record sample) →
        (ingestedSample s call.clock authority record sample).observedAtMonotonicNs ≤
          a.observedAtMonotonicNs →
        ∃ b ∈ record.samples, b.SameSeries a ∧ a.observedAtMonotonicNs ≤ b.observedAtMonotonicNs
  | _ => True

instance (accepted : List HealthSample) (s : State) (call : Call) :
    Decidable (NothingForgotten accepted s call) := by
  change Decidable (call.operation.onIngestion fun _ _ _ _ => ∀ record ∈ _, _ → ∀ a ∈ accepted, _)
  refine @Operation.decidableOnIngestion _ (fun _ _ _ _ => ?_) _
  infer_instance

variable {config : RegistryConfig} {s s' : State} {accepted : List HealthSample}

/-- An operation without evidence brings no sample. -/
lemma acceptedSamples_quiet {call : Call} (quiet : call.operation.addsEvidence = false) :
    acceptedSamples s call s' = [] := by
  obtain ⟨operation, clock⟩ := call
  cases operation <;> first | rfl | cases quiet

/-- A reading that no stored reading refuses is newer than the accepted ones (source
`Registry::ingest_health`, the loop over the samples). -/
lemma newer_than_accepted {clock : Clock} {authority : AuthorityToken} {module : ModuleHandle}
    {sample : HealthSampleInput} {policy : MutationPolicy} {record : ModuleRecord}
    (remembers : NothingForgotten accepted s ⟨.ingestHealth authority module sample policy, clock⟩)
    (found : s.modules[module.uid]? = some record)
    (newer : (ingestedSample s clock authority record sample).observedAtMonotonicNs ≠ 0 →
      record.samples.any (replays authority sample
        (ingestedSample s clock authority record sample).clockDomain
        (ingestedSample s clock authority record sample).observedAtMonotonicNs) = false)
    {a : HealthSample} (member : a ∈ accepted)
    (same : a.SameSeries (ingestedSample s clock authority record sample))
    (set : (ingestedSample s clock authority record sample).observedAtMonotonicNs ≠ 0) :
    a.observedAtMonotonicNs <
      (ingestedSample s clock authority record sample).observedAtMonotonicNs := by
  by_contra older
  rw [UInt64.not_lt] at older
  obtain ⟨b, stored, alike, covers⟩ := remembers record found set a member same older
  have accepts := List.any_eq_false.1 (newer set) b stored
  obtain ⟨source, _, metric, lane, domain⟩ := same
  obtain ⟨source', _, metric', lane', domain'⟩ := alike
  have reaches := UInt64.le_trans older covers
  refine accepts (decide_eq_true ⟨source'.trans source, metric'.trans metric, lane'.trans lane,
    domain'.trans domain, ?_, reaches⟩)
  intro zero
  rw [zero] at reaches
  exact set (UInt64.le_zero_iff.1 reaches)

/-- As long as no evicted reading is needed for the comparison, the readings accepted from one
source for one series in one clock domain strictly increase (source `Registry::ingest_health`). -/
theorem readings_increase [StdSort] {w : State × List HealthSample}
    (reached : Run (withHistory (step config) acceptedSamples)
      (fun w call => NothingForgotten w.2 w.1 call) (State.initial, []) w) : Increasing w.2 := by
  have both := reached.invariant (fun w => Coherent config w.1 ∧ Increasing w.2)
    ⟨.initial, List.Pairwise.nil⟩ ?_
  · exact both.2
  · rintro w ⟨operation, clock⟩ w' ⟨coherent, increasing⟩ remembers moved
    obtain ⟨taken, log⟩ := withHistory_eq_some.1 moved
    refine ⟨coherent.step taken, ?_⟩
    rw [log]
    cases step_moduleStep coherent taken with
    | stay quiet => rwa [acceptedSamples_quiet quiet, List.append_nil]
    | move quiet => rwa [acceptedSamples_quiet quiet, List.append_nil]
    | registerModule => rwa [acceptedSamples, List.append_nil]
    | updateIdentity => rwa [acceptedSamples, List.append_nil]
    | publishCapability => rwa [acceptedSamples, List.append_nil]
    | ingestHealth _ found _ stores newer =>
      subst stores
      simp only [acceptedSamples, found]
      refine List.pairwise_append.2 ⟨increasing, List.pairwise_singleton _ _, ?_⟩
      rintro a member b new same _ set
      obtain rfl := List.mem_singleton.1 new
      exact newer_than_accepted remembers found newer member same set

/-- A registry that keeps one sample of a series. -/
def oneOfSeries : RegistryConfig := { maxSamplesPerSeries := 1 }

/-- A sample of another clock domain evicts the last reading, and the same reading is accepted
again (source `Registry::ingest_health`). -/
theorem replay_after_eviction :
    ∃ w, Run (withHistory (step oneOfSeries) acceptedSamples) Unguarded (State.initial, []) w ∧
      ¬ Increasing w.2 := by
  have replayed : (runActions (withHistory (step oneOfSeries) acceptedSamples) [registerHost,
      registerBay bayA .ensureCurrent, reading .temperatureCelsius 10 1,
      reading .temperatureCelsius 10 2, reading .temperatureCelsius 10 1] (State.initial, [])).any
      (fun w => decide (¬ Increasing w.2)) = true := by decide +kernel
  obtain ⟨w, reached, shows⟩ := Run.exists_ofActions replayed
  exact ⟨w, reached, of_decide_eq_true shows⟩

/-- Two readings of a series, the first one evicted by a sample of another clock domain. -/
theorem readings_increase_twice :
    ∃ w, Run (withHistory (step oneOfSeries) acceptedSamples)
        (fun w call => NothingForgotten w.2 w.1 call) (State.initial, []) w ∧
      w.2.map (·.observedAtMonotonicNs) = [10, 10, 11] ∧ Increasing w.2 := by
  have twice : (runGuarded (withHistory (step oneOfSeries) acceptedSamples)
      (fun w call => decide (NothingForgotten w.2 w.1 call)) [registerHost,
      registerBay bayA .ensureCurrent, reading .temperatureCelsius 10 1,
      reading .temperatureCelsius 10 2, reading .temperatureCelsius 11 1] (State.initial, [])).any
      (fun w => decide (w.2.map (·.observedAtMonotonicNs) = [10, 10, 11])) = true := by
    decide +kernel
  obtain ⟨w, guarded, shows⟩ := Run.exists_ofGuarded twice
  have reached : Run (withHistory (step oneOfSeries) acceptedSamples)
      (fun w call => NothingForgotten w.2 w.1 call) (State.initial, []) w :=
    guarded.mono fun _ _ h => of_decide_eq_true h
  exact ⟨w, reached, of_decide_eq_true shows, readings_increase reached⟩

end TransceiverRegistry

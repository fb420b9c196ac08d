import TransceiverRegistry.Registry.Budget
import TransceiverRegistry.Registry.Evidenced
import TransceiverRegistry.Registry.Fencing

/-!
# Reconciling a lifecycle with the evidence

A reconciliation asks the health report of a module where it belongs. The report does not read the
lifecycle state, so a second reconciliation at the same reading of the clock asks for the state that
the first one has reached.
-/

namespace TransceiverRegistry

open Lib

/-- A reconciliation left a module as it was, or moved it as its report asks: to the degraded state
when a row is degraded or critical, to the active one when the report is healthy
(source `Registry::reconcile_lifecycle`). -/
def Reconciled (report : HealthReport) (old new : LifecycleState) : Prop :=
  new = old ∨
  ((old = .active ∨ old = .attached) ∧ new = .degraded ∧
    ∃ row ∈ report.metrics, row.state = .degraded ∨ row.state = .critical) ∨
  ((old = .degraded ∨ old = .attached) ∧ new = .active ∧ report.healthy = true)

/-- The worst state that was folded is one of the states (source `build_health_report`, `worst`). -/
lemma mem_of_foldl_worseState {states : List MetricState} {worst : Option MetricState}
    {state : MetricState} (found : states.foldl worseState worst = some state) :
    worst = some state ∨ state ∈ states := by
  induction states generalizing worst with
  | nil => exact .inl found
  | cons first rest ih =>
    obtain kept | member := ih found
    · cases worst with
      | none =>
        obtain rfl := Option.some.inj kept
        exact .inr List.mem_cons_self
      | some w =>
        unfold worseState at kept
        dsimp only at kept
        split at kept
        · obtain rfl := Option.some.inj kept
          exact .inr List.mem_cons_self
        · exact .inl kept
    · exact .inr (List.mem_cons_of_mem _ member)

section Report

variable [StdSort] {config : RegistryConfig} {s s' : State} {record record' : ModuleRecord}
  {now : WallNs} {domain : ClockDomainId}

/-- The worst state of a report is the state of a row, unless there is none
(source `build_health_report`, `worst`). -/
lemma exists_row_of_worst {state : MetricState} (known : state ≠ .unknown)
    (worst : (buildHealthReport config now domain s record).worst = state) :
    ∃ row ∈ (buildHealthReport config now domain s record).metrics, row.state = state := by
  let states := (buildHealthReport config now domain s record).metrics.map (·.state)
  have worst : (states.foldl worseState none).getD .unknown = state := worst
  cases found : states.foldl worseState none with
  | none =>
    rw [found] at worst
    exact absurd worst.symm known
  | some w =>
    rw [found, Option.getD_some] at worst
    obtain none | member := mem_of_foldl_worseState found
    · cases none
    · rw [worst] at member
      obtain ⟨row, here, of⟩ := List.mem_map.1 member
      exact ⟨row, here, of⟩

/-- A report depends on the evidence of a module, the thresholds and the sources
(source `build_health_report`). -/
lemma buildHealthReport_congr (config : RegistryConfig) (now : WallNs) (domain : ClockDomainId)
    (same : SameEvidence record record') (sources : s'.sources = s.sources)
    (thresholds : s'.thresholds = s.thresholds) :
    (buildHealthReport config now domain s' record').worst =
        (buildHealthReport config now domain s record).worst ∧
      (buildHealthReport config now domain s' record').outcome =
        (buildHealthReport config now domain s record).outcome := by
  have policy : liveThresholds s' = liveThresholds s := by
    rw [liveThresholds, liveThresholds, thresholds]
  have declared : declaredSeries record' = declaredSeries record := by
    funext declaration
    rw [declaredSeries, declaredSeries, same.incarnation]
  have rows : reportRows s' record' = reportRows s record := by
    rw [reportRows, reportRows, policy, same.samples, same.incarnation, same.declarations, declared]
  have marked : markSample s' record' = markSample s record := by
    funext sample
    rw [markSample, markSample, same.incarnation, sourceIsLive_congr sources]
  have classified : classifyRow config now s' record' = classifyRow config now s record := by
    funext row
    rw [classifyRow, classifyRow, policy, marked, same.samples, same.uid, same.incarnation,
      same.latches]
  simp only [buildHealthReport, rows, classified, and_self]

end Report

/-- Where a report asks a module to be (source `Registry::reconcile_lifecycle`, `target`). -/
lemma reconcileTarget_spec [StdSort] (config : RegistryConfig) (now : WallNs) (domain : ClockDomainId)
    (s : State) (record : ModuleRecord) (state : LifecycleState) :
    Reconciled (buildHealthReport config now domain s record) state
      (reconcileTarget state (buildHealthReport config now domain s record)) := by
  unfold reconcileTarget
  dsimp only
  split
  · rename_i unhealthy
    refine .inr (.inl ⟨unhealthy.2, rfl, ?_⟩)
    obtain critical | degraded := unhealthy.1
    · obtain ⟨row, member, of⟩ := exists_row_of_worst (by decide) critical
      exact ⟨row, member, .inr of⟩
    · obtain ⟨row, member, of⟩ := exists_row_of_worst (by decide) degraded
      exact ⟨row, member, .inl of⟩
  · split
    · rename_i healthy
      refine .inr (.inr ⟨healthy.2, rfl, ?_⟩)
      simp [HealthReport.healthy, healthy.1]
    · exact .inl rfl

/-- A report never asks for a move that the table forbids (source `kTargets`). -/
lemma reconcileTarget_allowed {state : LifecycleState} {report : HealthReport}
    (moves : reconcileTarget state report ≠ state) :
    lifecycleTransitionAllowed state (reconcileTarget state report) = true := by
  unfold reconcileTarget at moves ⊢
  dsimp only at moves ⊢
  split
  · rename_i unhealthy
    obtain rfl | rfl := unhealthy.2 <;> decide
  · rename_i notUnhealthy
    rw [if_neg notUnhealthy] at moves
    split
    · rename_i healthy
      obtain rfl | rfl := healthy.2 <;> decide
    · rename_i notHealthy
      exact absurd (if_neg notHealthy) moves

/-- A module that is where its report asks it to be stays there (source
`Registry::reconcile_lifecycle`, `target`). -/
lemma reconcileTarget_settled (state : LifecycleState) {report report' : HealthReport}
    (worst : report'.worst = report.worst) (outcome : report'.outcome = report.outcome) :
    reconcileTarget (reconcileTarget state report) report' = reconcileTarget state report := by
  unfold reconcileTarget
  rw [worst, outcome]
  dsimp only
  by_cases unhealthy : report.worst = .critical ∨ report.worst = .degraded
  · have notHealthy : ¬ (report.outcome = .fresh ∧ report.worst = .ok) := by
      rintro ⟨_, ok⟩
      rw [ok] at unhealthy
      exact absurd unhealthy (by decide)
    simp only [unhealthy, notHealthy, true_and, false_and, if_false]
    split <;> simp_all
  · simp only [unhealthy, false_and, if_false]
    by_cases healthy : report.outcome = .fresh ∧ report.worst = .ok
    · simp only [healthy, true_and]
      split <;> simp_all
    · simp only [healthy, false_and, if_false]

/-- A refused authority is not a forbidden move (source `require_authority`). -/
lemma requireAuthority_error_code {s : State} {authority : AuthorityToken} {e : Error}
    (refused : requireAuthority s authority = .error e) : e.code ≠ .invalidTransition := by
  rw [requireAuthority, bind_eq_error, refuseIf_eq_error] at refused
  obtain ⟨_, rfl⟩ | ⟨_, _, refused⟩ := refused
  · exact StatusCode.noConfusion
  · rw [bind_eq_error, orRefuse_eq_error] at refused
    obtain ⟨_, rfl⟩ | ⟨_, _, refused⟩ := refused
    · exact StatusCode.noConfusion
    · obtain ⟨_, rfl⟩ := refuseIf_eq_error.1 refused
      exact StatusCode.noConfusion

/-- What stops a caller before a module is acted on is not a forbidden move (source the head of the
mutation bodies). -/
lemma currentModule_error_code {s : State} {authority : AuthorityToken} {module : ModuleHandle}
    {fenced : String} {e : Error} (refused : currentModule s authority module fenced = .error e) :
    e.code ≠ .invalidTransition := by
  rw [currentModule, bind_eq_error] at refused
  obtain refused | ⟨_, _, refused⟩ := refused
  · exact requireAuthority_error_code refused
  · rw [bind_eq_error, orRefuse_eq_error] at refused
    obtain ⟨_, rfl⟩ | ⟨_, _, refused⟩ := refused
    · exact StatusCode.noConfusion
    · rw [bind_eq_error, refuseIf_eq_error] at refused
      obtain ⟨_, rfl⟩ | ⟨_, _, found⟩ := refused
      · exact StatusCode.noConfusion
      · cases found

section Reconciliation

variable [StdSort] {config : RegistryConfig} {clock : Clock} {authority : AuthorityToken}
  {module : ModuleHandle} {policy : MutationPolicy} {s s' : State} {event : LifecycleEvent}

/-- A reconciliation never finds its move forbidden (source `Registry::reconcile_lifecycle`). -/
lemma reconcileLifecycle_error_code {e : Error}
    (failed : reconcileLifecycle config clock authority module policy s = .error e) :
    e.code ≠ .invalidTransition := by
  by_cases stale : policy.fenced = true ∧ module.generation ≠ 0 ∧ module.generation ≠ s.generation
  · rw [reconcileLifecycle, mutate, bind_eq_error, refuseIf_eq_error] at failed
    obtain ⟨_, rfl⟩ | ⟨_, passed, _⟩ := failed
    · exact StatusCode.noConfusion
    · exact absurd stale (refuseIf_eq_ok.1 passed)
  · rw [reconcileLifecycle, mutate_eq_error stale, reconcileLifecycleBody, bind_eq_error] at failed
    obtain stopped | ⟨record, _, refused⟩ := failed
    · exact currentModule_error_code stopped
    · dsimp only at refused
      split at refused
      · cases refused
      · rename_i moves
        rw [bind_eq_error, refuseIf_eq_error] at refused
        obtain ⟨forbidden, _⟩ | ⟨_, _, impossible⟩ := refused
        · rw [reconcileTarget_allowed moves] at forbidden
          cases forbidden
        · cases impossible

/-- What a successful reconciliation did: the module is where its report asks it to be, and when it
was there already, no record changed (source `Registry::reconcile_lifecycle`). -/
lemma reconcileLifecycle_spec
    (done : reconcileLifecycle config clock authority module policy s = .ok (s', event)) :
    requireAuthority s authority = .ok () ∧ s'.sources = s.sources ∧
    s'.thresholds = s.thresholds ∧
    ∃ record record', s.modules[module.uid]? = some record ∧
      s'.modules[module.uid]? = some record' ∧ SameEvidence record record' ∧
      record'.incarnation = module.incarnation ∧
      record'.state = reconcileTarget record.state
        (buildHealthReport config (clock.wallNowNs 1) (clock.domain 0) s record) ∧
      (record'.state = record.state → s'.modules = s.modules) := by
  obtain ⟨_, next, run, rfl⟩ := mutate_eq_ok.1 done
  obtain ⟨auth, record, target, found, current, asked, ⟨same, rfl⟩ | ⟨moves, _, rfl, rfl⟩⟩ :=
    reconcileLifecycleBody_inv run
  · exact ⟨auth, rfl, rfl, record, record, found, found, ⟨rfl, rfl, rfl, rfl, rfl, rfl, rfl⟩,
      current, same.symm.trans asked, fun _ => rfl⟩
  · refine ⟨auth, rfl, rfl, record, _, found, Std.ExtTreeMap.getElem?_insert_self,
      record.move_sameEvidence config _, current, asked, fun stays => ?_⟩
    exact absurd stays moves

/-- Calling it again at the same reading of the clock finds the module where its report asks it to be
(source `Registry::reconcile_lifecycle`). -/
lemma reconcileLifecycle_again {s'' : State} {event' : LifecycleEvent} {policy' : MutationPolicy}
    (first : reconcileLifecycle config clock authority module policy s = .ok (s', event))
    (again : reconcileLifecycle config clock authority module policy' s' = .ok (s'', event')) :
    s''.modules = s'.modules := by
  obtain ⟨_, sources, thresholds, record, record', _, found', same, _, asked, _⟩ :=
    reconcileLifecycle_spec first
  obtain ⟨_, _, _, old, new, found, _, _, _, asked', unmoved⟩ := reconcileLifecycle_spec again
  obtain rfl : old = record' := Option.some.inj (found.symm.trans found')
  obtain ⟨worst, outcome⟩ := buildHealthReport_congr config (clock.wallNowNs 1) (clock.domain 0)
    same sources thresholds
  refine unmoved ?_
  rw [asked', asked]
  exact reconcileTarget_settled record.state worst outcome

/-- A module that is where its report asks it to be is left alone (source
`Registry::reconcile_lifecycle`). -/
lemma reconcileLifecycleBody_settled {record : ModuleRecord} {generation : Generation}
    {sequence : Sequence} (auth : requireAuthority s authority = .ok ())
    (found : s.modules[module.uid]? = some record)
    (current : record.incarnation = module.incarnation)
    (settled : reconcileTarget record.state (buildHealthReport config (clock.wallNowNs 1)
      (clock.domain 0) s record) = record.state) :
    reconcileLifecycleBody config clock authority module s generation sequence =
      .ok (s, lifecycleEvent authority generation 0 (clock.wallNowNs 0) record.incarnation
        record.state record.state (text "no transition required")) := by
  rw [reconcileLifecycleBody, currentModule_eq_ok.2 ⟨auth, found, current⟩, ok_bind]
  exact if_pos settled

/-- Calling it again without a fence on the generation succeeds (source
`Registry::reconcile_lifecycle`). -/
lemma exists_reconcileLifecycle_again
    (first : reconcileLifecycle config clock authority module policy s = .ok (s', event)) :
    ∃ s'' event', reconcileLifecycle config clock authority module .autoRetry s' =
      .ok (s'', event') := by
  obtain ⟨auth, sources, thresholds, record, record', _, found', same, current, asked, _⟩ :=
    reconcileLifecycle_spec first
  obtain ⟨worst, outcome⟩ := buildHealthReport_congr config (clock.wallNowNs 1) (clock.domain 0)
    same sources thresholds
  have settled : reconcileTarget record'.state (buildHealthReport config (clock.wallNowNs 1)
      (clock.domain 0) (nextSequence s').2 record') = record'.state := by
    rw [asked]
    exact reconcileTarget_settled record.state worst outcome
  have auth' : requireAuthority (nextSequence s').2 authority = .ok () := by
    rw [requireAuthority_eq_ok] at auth ⊢
    exact ⟨auth.1, (sourceIsLive_congr sources _ _).trans auth.2⟩
  have unfenced : ¬ (MutationPolicy.autoRetry.fenced = true ∧ module.generation ≠ 0 ∧
      module.generation ≠ s'.generation) := fun fence => Bool.noConfusion fence.1
  exact ⟨_, _, mutate_eq_ok.2 ⟨unfenced, _,
    reconcileLifecycleBody_settled auth' found' current settled, rfl⟩⟩

/-- A reconciliation moves a module only as its health report asks, is never refused as an illegal
move, and settles: a second one at the same reading of the clock moves no module and adds nothing to
any history (source `Registry::reconcile_lifecycle`). -/
theorem reconciliation_follows_evidence (config : RegistryConfig) (clock : Clock)
    (authority : AuthorityToken) (module : ModuleHandle) (policy : MutationPolicy) (s : State) :
    (∀ e, reconcileLifecycle config clock authority module policy s = .error e →
      e.code ≠ .invalidTransition) ∧
    ∀ s' event, reconcileLifecycle config clock authority module policy s = .ok (s', event) →
      (∃ record record', s.modules[module.uid]? = some record ∧
        s'.modules[module.uid]? = some record' ∧
        Reconciled (buildHealthReport config (clock.wallNowNs 1) (clock.domain 0) s record)
          record.state record'.state) ∧
      (∃ s'' event', reconcileLifecycle config clock authority module .autoRetry s' =
        .ok (s'', event')) ∧
      ∀ policy' s'' event', reconcileLifecycle config clock authority module policy' s' =
        .ok (s'', event') → s''.modules = s'.modules := by
  refine ⟨fun e failed => reconcileLifecycle_error_code failed, fun s' event done => ⟨?_,
    exists_reconcileLifecycle_again done, fun policy' s'' event' again =>
      reconcileLifecycle_again done again⟩⟩
  obtain ⟨_, _, _, record, record', found, found', _, _, asked, _⟩ := reconcileLifecycle_spec done
  refine ⟨record, record', found, found', ?_⟩
  rw [asked]
  exact reconcileTarget_spec config (clock.wallNowNs 1) (clock.domain 0) s record record.state

end Reconciliation

/-- A module in a slot, with a cool reading under a policy. -/
def attachedCool : List Call :=
  [registerHost, registerBay bayA .ensureCurrent, attachFirst 1 bayA slotA, publishPolicy 1,
    reading .temperatureCelsius 1 1]

/-- An attached module with a cool reading becomes active, on evidence, and stays so. -/
theorem reconciliation_follows_evidence_cool : ∃ s s' event,
    Run (step {}) Unguarded State.initial s ∧
    reconcileLifecycle {} stillClock host firstA .autoRetry s = .ok (s', event) ∧
    event.from_ = .attached ∧ event.to_ = .active ∧
    (∃ record record', s.modules[(1 : UInt64)]? = some record ∧
      s'.modules[(1 : UInt64)]? = some record' ∧
      Reconciled (buildHealthReport {} 1 1 s record) record.state record'.state) ∧
    ∃ s'' event', reconcileLifecycle {} stillClock host firstA .autoRetry s' =
      .ok (s'', event') ∧ s''.modules = s'.modules := by
  have cool : (runActions (step {}) attachedCool State.initial).any (fun s =>
      (reconcileLifecycle {} stillClock host firstA .autoRetry s).toOption.any fun answer =>
        answer.2.from_ = .attached && answer.2.to_ = .active) = true := by decide +kernel
  obtain ⟨s, reached, shows⟩ := Run.exists_ofActions cool
  obtain ⟨⟨s', event⟩, done, moved⟩ := exists_ok_of_any shows
  simp only [Bool.and_eq_true, decide_eq_true_eq] at moved
  obtain ⟨follows, ⟨s'', event', again⟩, settled⟩ :=
    (reconciliation_follows_evidence {} stillClock host firstA .autoRetry s).2 s' event done
  obtain ⟨record, record', found, found', asked⟩ := follows
  exact ⟨s, s', event, reached, done, moved.1, moved.2, ⟨record, record', found, found', asked⟩,
    s'', event', again, settled _ _ _ again⟩

end TransceiverRegistry

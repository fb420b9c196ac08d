import Mathlib.Data.List.Induction
import TransceiverRegistry.Registry.Frame

/-!
# The policy of a series

A publication retires the threshold of its series, adds the new one and drops at most one of the
retired ones. So every series has at most one threshold in force, the latest one, and the selection
for a lane is the latest one for the lane, or else the latest one for the module.
-/

namespace TransceiverRegistry

open Lib

/-- The threshold is for a series. -/
def HealthThreshold.isFor (metric : HealthMetric) (lane : UInt16) (threshold : HealthThreshold) :
    Bool :=
  threshold.metric = metric ∧ threshold.lane = lane

/-- The thresholds in force for a series (source `live_thresholds`). -/
def policiesFor (metric : HealthMetric) (lane : UInt16) (records : List ThresholdRecord) :
    List HealthThreshold :=
  ((records.filter (·.live)).map (·.threshold)).filter (·.isFor metric lane)

/-- The number of thresholds that are kept for a series. -/
def historyFor (metric : HealthMetric) (lane : UInt16) (records : List ThresholdRecord) : Nat :=
  records.countP fun record => record.threshold.isFor metric lane

/-- The threshold that was published last for each series. -/
def LatestPolicies : Type := HealthMetric → UInt16 → Option HealthThreshold

/-- No threshold was published. -/
def LatestPolicies.none : LatestPolicies := fun _ _ => Option.none

/-- The thresholds that were published last, with one more call (source
`Registry::publish_threshold`). -/
def LatestPolicies.extend (s : State) (call : Call) (_ : State) (latest : LatestPolicies) :
    LatestPolicies :=
  match call.operation with
  | .publishThreshold authority threshold _ => fun metric lane =>
    if threshold.isFor metric lane then
      some (newThreshold authority (s.generation + 1) s.nextSequence threshold).threshold
    else latest metric lane
  | _ => latest

/-- Every series has the threshold in force that was published last for it, and no other one, and
its history is within its bound. -/
structure Unambiguous (most : Nat) (records : List ThresholdRecord) (latest : LatestPolicies) :
    Prop where
  current : ∀ metric lane, policiesFor metric lane records = (latest metric lane).toList
  history : ∀ metric lane, historyFor metric lane records ≤ most
  live : ∀ record ∈ records, record.threshold.live = true

section Lists

variable {config : RegistryConfig} {most : Nat} {threshold : HealthThreshold}
  {records : List ThresholdRecord} {record : ThresholdRecord} {metric : HealthMetric}
  {lane : UInt16} {authority : AuthorityToken}
  {generation : Generation} {sequence : Sequence} {latest : LatestPolicies}

/-- A record governs a threshold when both are for the same series
(source `Registry::publish_threshold`). -/
lemma isFor_of_governs (governs : record.governs threshold = true) :
    record.threshold.isFor metric lane = threshold.isFor metric lane := by
  obtain ⟨same, same'⟩ := of_decide_eq_true governs
  unfold HealthThreshold.isFor
  rw [same, same']

/-- The records that govern a threshold are those for its series
(source `Registry::publish_threshold`). -/
lemma governs_of_isFor (own : threshold.isFor metric lane = true) :
    record.governs threshold = record.threshold.isFor metric lane := by
  obtain ⟨rfl, rfl⟩ := of_decide_eq_true own
  rfl

/-- Erasing an entry without a property keeps the entries with it. -/
lemma filter_eraseP {α : Type} {p q : α → Bool} (apart : ∀ a, p a = true → q a = false)
    (l : List α) :
    (l.eraseP p).filter q = l.filter q := by
  induction l with
  | nil => rfl
  | cons a l ih =>
    rw [List.eraseP_cons]
    cases erased : p a with
    | true =>
      have other := apart a erased
      rw [cond_true, List.filter_cons_of_neg (by rw [other]; exact Bool.false_ne_true)]
    | false => rw [cond_false, List.filter_cons, List.filter_cons, ih]

/-- The thresholds in force after one more (source `live_thresholds`). -/
lemma policiesFor_cons : policiesFor metric lane (record :: records) =
    (if record.live && record.threshold.isFor metric lane then [record.threshold] else []) ++
      policiesFor metric lane records := by
  unfold policiesFor
  cases live : record.live with
  | false => rw [List.filter_cons_of_neg (by rw [live]; exact Bool.false_ne_true)]; rfl
  | true =>
    rw [List.filter_cons_of_pos live, List.map_cons, List.filter_cons, Bool.true_and]
    split <;> rfl

/-- A threshold that is added is in force for its series. -/
lemma policiesFor_concat (live : record.live = true) :
    policiesFor metric lane (records ++ [record]) = policiesFor metric lane records ++
      if record.threshold.isFor metric lane then [record.threshold] else [] := by
  induction records with
  | nil => rw [List.nil_append, policiesFor_cons, live, Bool.true_and]; exact List.append_nil _
  | cons head rest ih =>
    rw [List.cons_append, policiesFor_cons, policiesFor_cons, ih, List.append_assoc]

/-- Retiring the thresholds of a series takes them out of force
(source `Registry::publish_threshold`, the first loop). -/
lemma policiesFor_retire : policiesFor metric lane (retireThresholds threshold records) =
    if threshold.isFor metric lane then [] else policiesFor metric lane records := by
  induction records with
  | nil => exact (ite_self _).symm
  | cons head rest ih =>
    rw [retireThresholds, List.map_cons, ← retireThresholds, policiesFor_cons, policiesFor_cons, ih]
    cases own : threshold.isFor metric lane with
    | true =>
      simp only [if_true, List.append_nil, governs_of_isFor own]
      by_cases retired : head.live = true ∧ head.threshold.isFor metric lane = true
      · rw [if_pos retired]
        rfl
      · rw [if_neg retired, if_neg (by rwa [Bool.and_eq_true])]
    | false =>
      by_cases retired : head.live = true ∧ head.governs threshold = true
      · rw [if_pos retired, isFor_of_governs retired.2, own, Bool.and_false, Bool.and_false]
        rfl
      · rw [if_neg retired]
        rfl

/-- What the trim drops is not in force (source `Registry::publish_threshold`, the last loop). -/
lemma policiesFor_trim :
    policiesFor metric lane (trimThresholds config threshold records) =
      policiesFor metric lane records := by
  rw [trimThresholds]
  split
  · rw [policiesFor, filter_eraseP, policiesFor]
    intro record dropped
    rw [Bool.and_eq_true, Bool.not_eq_true'] at dropped
    exact dropped.1
  · rfl

/-- The trim only removes thresholds (source `Registry::publish_threshold`, the last loop). -/
lemma trimThresholds_sublist (threshold : HealthThreshold) (records : List ThresholdRecord) :
    (trimThresholds config threshold records).Sublist records := by
  rw [trimThresholds]
  split
  · exact List.eraseP_sublist
  · exact List.Sublist.refl _

/-- Retiring keeps the history of every series. -/
lemma historyFor_retire : historyFor metric lane (retireThresholds threshold records) =
    historyFor metric lane records := by
  rw [historyFor, retireThresholds, List.countP_map]
  refine List.countP_congr fun record _ => ?_
  rw [Function.comp_apply]
  split <;> rfl

/-- A threshold counts in the history of its series. -/
lemma historyFor_insert {before after : List ThresholdRecord} :
    historyFor metric lane (before ++ record :: after) =
      historyFor metric lane (before ++ after) + (record.threshold.isFor metric lane).toNat := by
  rw [historyFor, List.perm_middle.countP_eq, List.countP_cons, ← historyFor]
  cases record.threshold.isFor metric lane <;> rfl

/-- The history of a series has its retired thresholds and those in force. -/
lemma historyFor_eq : historyFor metric lane records = (policiesFor metric lane records).length +
    records.countP fun record => !record.live && record.threshold.isFor metric lane := by
  induction records with
  | nil => rfl
  | cons head rest ih =>
    rw [historyFor, List.countP_cons, ← historyFor, ih, policiesFor_cons, List.length_append,
      List.countP_cons]
    cases head.live <;> cases head.threshold.isFor metric lane <;> simp <;> omega

/-- The trim keeps a history within its bound that one threshold was added to
(source `Registry::publish_threshold`, the last loop). -/
lemma historyFor_trim (one : 1 ≤ config.maxClaimHistory.toNat)
    (within : config.maxClaimHistory.toNat ≤ most)
    (single : (policiesFor threshold.metric threshold.lane records).length ≤ 1)
    (bound : historyFor metric lane records ≤ most + (threshold.isFor metric lane).toNat) :
    historyFor metric lane (trimThresholds config threshold records) ≤ most := by
  rw [trimThresholds]
  cases own : threshold.isFor metric lane with
  | false =>
    rw [own] at bound
    split
    · exact (List.eraseP_sublist.countP_le).trans bound
    · exact bound
  | true =>
    have same : records.countP (·.governs threshold) = historyFor metric lane records := by
      refine List.countP_congr fun record _ => ?_
      rw [governs_of_isFor own]
    rw [same]
    split
    · rename_i long
      obtain ⟨rfl, rfl⟩ := of_decide_eq_true own
      have parts : historyFor threshold.metric threshold.lane records = _ := historyFor_eq
      have retired : 0 < records.countP fun record =>
        !record.live && record.threshold.isFor threshold.metric threshold.lane := by omega
      obtain ⟨old, member, dropped⟩ := List.countP_pos_iff.1 retired
      obtain ⟨first, before, after, _, dropped, rfl, erased⟩ :=
        List.exists_of_eraseP (p := fun record => !record.live && record.governs threshold) member
          dropped
      rw [erased]
      have own : first.threshold.isFor threshold.metric threshold.lane = true :=
        (Bool.and_eq_true_iff.1 dropped).2
      rw [historyFor_insert, own] at bound
      exact Nat.le_of_add_le_add_right (bound.trans_eq (by rw [HealthThreshold.isFor]; simp))
    · rename_i short
      exact (Nat.not_lt.1 short).trans within

/-- A publication puts its threshold in force, and no other one of the series
(source `Registry::publish_threshold`). -/
lemma Unambiguous.publish (unambiguous : Unambiguous most records latest)
    (one : 1 ≤ config.maxClaimHistory.toNat) (within : config.maxClaimHistory.toNat ≤ most)
    {latest' : LatestPolicies}
    (extended : ∀ metric lane, latest' metric lane = if threshold.isFor metric lane then
      some (newThreshold authority generation sequence threshold).threshold
      else latest metric lane) :
    Unambiguous most (trimThresholds config threshold (retireThresholds threshold records ++
      [newThreshold authority generation sequence threshold])) latest' := by
  have added (metric : HealthMetric) (lane : UInt16) :
      (newThreshold authority generation sequence threshold).threshold.isFor metric lane =
        threshold.isFor metric lane := rfl
  have current (metric : HealthMetric) (lane : UInt16) :
      policiesFor metric lane (retireThresholds threshold records ++
        [newThreshold authority generation sequence threshold]) = (latest' metric lane).toList := by
    rw [policiesFor_concat rfl, policiesFor_retire, added, extended]
    split
    · rfl
    · rw [List.append_nil]
      exact unambiguous.current metric lane
  constructor
  · intro metric lane
    rw [policiesFor_trim]
    exact current metric lane
  · intro metric lane
    refine historyFor_trim one within ?_ ?_
    · rw [current]
      exact Option.length_toList_le
    · rw [historyFor_insert, List.append_nil, historyFor_retire, added]
      exact Nat.add_le_add_right (unambiguous.history metric lane) _
  · intro record member
    obtain old | new := List.mem_append.1 ((trimThresholds_sublist _ _).subset member)
    · obtain ⟨before, known, rfl⟩ := List.mem_map.1 old
      have stays := unambiguous.live before known
      split
      · exact stays
      · exact stays
    · rw [List.mem_singleton.1 new]
      rfl

/-- The scan keeps the last threshold for the lane, and the last one for the module
(source `select_threshold`, the loop). -/
lemma scan_eq {thresholds : List HealthThreshold} (live : ∀ t ∈ thresholds, t.live = true) :
    thresholds.foldl (fun (best : Option HealthThreshold × Option HealthThreshold) t =>
      if t.live = false ∨ t.metric ≠ metric then best
      else if t.lane = lane then (some t, best.2)
      else if t.lane = kModuleLane then (best.1, some t)
      else best) (none, none) =
    ((thresholds.filter (·.isFor metric lane)).getLast?,
      if lane = kModuleLane then none
      else (thresholds.filter (·.isFor metric kModuleLane)).getLast?) := by
  induction thresholds using List.reverseRecOn with
  | nil => simp
  | append_singleton rest t ih =>
    have usable := live t (List.mem_append_right _ List.mem_cons_self)
    rw [List.foldl_append, ih fun t member => live t (List.mem_append_left _ member)]
    simp only [List.foldl_cons, List.foldl_nil, usable, Bool.true_eq_false, false_or,
      List.filter_append, List.filter_cons, List.filter_nil, HealthThreshold.isFor]
    by_cases metric' : t.metric = metric
    · by_cases lane' : t.lane = lane
      · by_cases module : lane = kModuleLane <;> simp [metric', lane', module]
      · by_cases module : t.lane = kModuleLane
        · have other : lane ≠ kModuleLane := fun same => lane' (module.trans same.symm)
          simp [metric', module, other, other.symm]
        · simp [metric', lane', module]
    · simp [metric']

/-- The selection takes the last threshold for the lane, or else the last one for the module
(source `select_threshold`). -/
lemma selectThreshold_eq {thresholds : List HealthThreshold}
    (live : ∀ t ∈ thresholds, t.live = true) : selectThreshold thresholds metric lane =
      ((thresholds.filter (·.isFor metric lane)).getLast? <|>
        (thresholds.filter (·.isFor metric kModuleLane)).getLast?) := by
  rw [selectThreshold, scan_eq live]
  by_cases module : lane = kModuleLane
  · subst module
    rw [if_pos rfl]
    cases (thresholds.filter (·.isFor metric kModuleLane)).getLast? <;> rfl
  · rw [if_neg module]

end Lists

/-- A fresh registry has no threshold. -/
lemma Unambiguous.initial {most : Nat} : Unambiguous most State.initial.thresholds .none :=
  ⟨fun _ _ => rfl, fun _ _ => Nat.zero_le _, fun _ member => (List.not_mem_nil member).elim⟩

/-- A call keeps the policy of every series unambiguous (source `RegistryImpl::mutate`). -/
lemma Unambiguous.step [StdSort] {config : RegistryConfig} {most : UInt32} {s s' : State}
    {call : Call} {latest : LatestPolicies}
    (unambiguous : Unambiguous most.toNat s.thresholds latest)
    (one : 1 ≤ config.maxClaimHistory) (within : config.maxClaimHistory ≤ most)
    (taken : step config s call = some s') :
    Unambiguous most.toNat s'.thresholds (LatestPolicies.extend s call s' latest) := by
  obtain ⟨_, next, run, rfl⟩ := step_eq_some taken
  obtain ⟨operation, clock⟩ := call
  cases kind : operation.setsPolicy with
  | false =>
    have same : LatestPolicies.extend s ⟨operation, clock⟩ (next.publish (s.generation + 1))
        latest = latest := by
      cases operation <;> first | rfl | cases kind
    rw [same]
    show Unambiguous most.toNat next.thresholds latest
    rw [(framed_of_body run).thresholds kind]
    exact unambiguous
  | true =>
    cases operation <;> cases kind
    rw [Operation.body, fst_map_eq_ok] at run
    obtain ⟨_, run⟩ := run
    obtain ⟨_, _, rfl⟩ := publishThresholdBody_inv run
    exact unambiguous.publish (UInt32.le_iff_toNat_le.1 one) (UInt32.le_iff_toNat_le.1 within)
      fun _ _ => rfl

end TransceiverRegistry

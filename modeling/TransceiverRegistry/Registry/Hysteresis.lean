import TransceiverRegistry.Lib.Streak
import TransceiverRegistry.Registry.Shown

/-!
# Hysteresis counts

A latch leaves its zone after a number of consecutive measurements that ask for it. One counter
counts the measurements that ask for a more severe zone and those that ask for a less severe one, so
in the middle zone, which can be left both ways, a mixed sequence is counted as if it were one
streak.
-/

namespace TransceiverRegistry

open Lib

/-- A measurement as the latch sees it (source the arguments of `advance_latch`). -/
structure Measurement where
  value : Binary64
  wallNs : WallNs
  sequence : Sequence
  generation : Generation

/-- The two ways out of a zone. -/
inductive Trend where
  | escalation | recovery
deriving DecidableEq

/-- One zone is more severe, or less severe, than another (source `zone_rank`). -/
def Trend.Departs : Trend → MetricState → MetricState → Prop
  | .escalation, state, zone => zoneRank state < zoneRank zone
  | .recovery, state, zone => zoneRank zone < zoneRank state

/-- The number of consecutive measurements a move takes (source `escalate_after`,
`recover_after`). -/
def HealthThreshold.after (threshold : HealthThreshold) : Trend → UInt32
  | .escalation => threshold.escalateAfter
  | .recovery => threshold.recoverAfter

/-- Move a latch by one measurement (source `advance_latch`). -/
def HealthLatch.advance (threshold : HealthThreshold) (latch : HealthLatch) (m : Measurement) :
    HealthLatch :=
  advanceLatch threshold latch m.value m.wallNs m.sequence m.generation

/-- Move a latch by a sequence of measurements. -/
def HealthLatch.advanceAll (threshold : HealthThreshold) (latch : HealthLatch)
    (measurements : List Measurement) : HealthLatch :=
  measurements.foldl (HealthLatch.advance threshold) latch

/-- The measurement is more severe, or less severe, than a zone by the bounds of that zone
(source `advance_latch`, `zone`). -/
def HealthThreshold.Asks (threshold : HealthThreshold) (trend : Trend) (state : MetricState)
    (m : Measurement) : Prop := trend.Departs state (latchZone threshold state m.value)

/-- Whenever a measurement moves the latch, the last measurements, as many as the threshold says,
all asked for it (source `HealthThreshold::escalate_after`, `HealthThreshold::recover_after`). -/
def CountsHonoured (threshold : HealthThreshold) (latch : HealthLatch)
    (measurements : List Measurement) : Prop :=
  ∀ front m back, measurements = front ++ m :: back → ∀ trend : Trend,
    trend.Departs (latch.advanceAll threshold front).state
      ((latch.advanceAll threshold front).advance threshold m).state →
    LastMeet (threshold.Asks trend (latch.advanceAll threshold front).state)
      (threshold.after trend).toNat (front ++ [m])

/-- The middle zone is left at once in one of its two directions, or has only one, or is never
entered. -/
def HealthThreshold.OneWay (threshold : HealthThreshold) (state : MetricState) : Prop :=
  threshold.escalateAfter = 1 ∨ threshold.recoverAfter = 1 ∨ threshold.hasCritical = false ∨
    (state ≠ .degraded ∧ (threshold.hasDegraded = false ∨
      threshold.degradedEnter.eq threshold.criticalEnter = true))

/-- The bounds of the bands a threshold has (source `validate_threshold`). -/
structure HealthThreshold.Banded (threshold : HealthThreshold) : Prop where
  after : ∀ trend, threshold.after trend ≠ 0
  degraded : threshold.hasDegraded = true →
    threshold.degradedEnter.isFinite = true ∧ threshold.degradedExit.isFinite = true
  critical : threshold.hasCritical = true →
    threshold.criticalEnter.isFinite = true ∧ threshold.criticalExit.isFinite = true ∧
      threshold.direction.ordered threshold.criticalExit threshold.criticalEnter = true
  both : threshold.hasDegraded = true → threshold.hasCritical = true →
    threshold.direction.ordered threshold.degradedEnter threshold.criticalEnter = true

variable {threshold : HealthThreshold} {latch : HealthLatch} {trend trend' : Trend}
  {state zone : MetricState} {m : Measurement} {front : List Measurement}

/-- An accepted threshold has bounds in order (source `validate_threshold`). -/
lemma HealthThreshold.Banded.ofAccepted (accepted : validateThreshold threshold = .ok ()) :
    threshold.Banded := by
  simp only [validateThreshold, validateBand, bind_eq_ok, refuseIf_eq_ok, not_or, not_and,
    Bool.not_eq_false] at accepted
  obtain ⟨_, _, _, _, _, _, _, _, _, counts, _, _, _, _, _, ⟨_, degraded, _⟩, _,
    ⟨_, critical, ordered⟩, both⟩ := accepted
  refine ⟨fun trend => ?_, degraded, fun has => ?_, both⟩
  · cases trend with
    | escalation => exact counts.1
    | recovery => exact counts.2
  · exact ⟨(critical has).1, (critical has).2, ordered has⟩

/-- A zone that is not the zone of the latch is more or less severe (source `advance_latch`). -/
lemma departs_of_ne (known : isThresholdZone state = true) (entered : isThresholdZone zone = true)
    (ne : zone ≠ state) : ∃ trend : Trend, trend.Departs state zone := by
  by_cases up : zoneRank state < zoneRank zone
  · exact ⟨.escalation, up⟩
  · refine ⟨.recovery, ?_⟩
    cases state <;> cases zone <;> simp_all [Trend.Departs, zoneRank, isThresholdZone]

/-- What each zone of a value says about it (source `advance_latch`, `zone`). -/
lemma latchZone_cases (threshold : HealthThreshold) (state : MetricState) (value : Binary64) :
    (latchZone threshold state value = .critical ∧ threshold.hasCritical = true) ∨
      (latchZone threshold state value = .degraded ∧ threshold.hasDegraded = true ∧
        (threshold.hasCritical = true → threshold.direction.reaches value
          (if state = .critical then threshold.criticalExit else threshold.criticalEnter) = false) ∧
        threshold.direction.reaches value
          (if state = .degraded then threshold.degradedExit else threshold.degradedEnter) = true) ∨
      latchZone threshold state value = .ok := by
  unfold latchZone
  generalize threshold.direction.reaches value (if state = .critical then threshold.criticalExit
    else threshold.criticalEnter) = critical
  generalize threshold.direction.reaches value (if state = .degraded then threshold.degradedExit
    else threshold.degradedEnter) = degraded
  cases threshold.hasCritical <;> cases threshold.hasDegraded <;> cases critical <;>
    cases degraded <;> simp

/-- The zone of a value is a zone (source `advance_latch`, `zone`). -/
lemma isThresholdZone_latchZone (threshold : HealthThreshold) (state : MetricState)
    (value : Binary64) : isThresholdZone (latchZone threshold state value) = true := by
  obtain ⟨zone, _⟩ | ⟨zone, _⟩ | zone := latchZone_cases threshold state value <;> rw [zone] <;> rfl

/-- What one measurement does to a latch in a zone: nothing but a new count, or one more measurement
that asks for a move, or the move (source `advance_latch`). -/
lemma advance_cases (threshold : HealthThreshold) (m : Measurement)
    (known : isThresholdZone latch.state = true) :
    (latchZone threshold latch.state m.value = latch.state ∧
        (latch.advance threshold m).state = latch.state ∧
        (latch.advance threshold m).consecutive = 0) ∨
      ∃ trend, threshold.Asks trend latch.state m ∧
        ((threshold.after trend ≤ latch.consecutive + 1 ∧
            (latch.advance threshold m).state = latchZone threshold latch.state m.value ∧
            (latch.advance threshold m).consecutive = 0) ∨
          (latch.consecutive + 1 < threshold.after trend ∧
            (latch.advance threshold m).state = latch.state ∧
            (latch.advance threshold m).consecutive = latch.consecutive + 1)) := by
  have moved : ((latch.advance threshold m).state, (latch.advance threshold m).consecutive) =
      latchMove threshold (latch.state, latch.consecutive) m.value := advanceLatch_move ..
  have state := congrArg Prod.fst moved
  have count := congrArg Prod.snd moved
  simp only [latchMove, known, Bool.true_eq_false, if_false] at state count
  by_cases same : latchZone threshold latch.state m.value = latch.state
  · rw [if_pos same] at state count
    exact .inl ⟨same, state, count⟩
  rw [if_neg same] at state count
  obtain ⟨trend, departs⟩ :=
    departs_of_ne known (isThresholdZone_latchZone threshold _ m.value) same
  refine .inr ⟨trend, departs, ?_⟩
  cases trend with
  | escalation =>
    have up : zoneRank latch.state < zoneRank (latchZone threshold latch.state m.value) := departs
    rw [if_pos up] at state count
    by_cases enough : threshold.escalateAfter ≤ latch.consecutive + 1
    · rw [if_pos enough] at state count
      exact .inl ⟨enough, state, count⟩
    · rw [if_neg enough] at state count
      exact .inr ⟨UInt32.not_le.1 enough, state, count⟩
  | recovery =>
    have down : ¬ zoneRank latch.state < zoneRank (latchZone threshold latch.state m.value) :=
      Nat.lt_asymm departs
    rw [if_neg down] at state count
    by_cases enough : threshold.recoverAfter ≤ latch.consecutive + 1
    · rw [if_pos enough] at state count
      exact .inl ⟨enough, state, count⟩
    · rw [if_neg enough] at state count
      exact .inr ⟨UInt32.not_le.1 enough, state, count⟩

/-- A measurement asks for one move only (source `zone_rank`). -/
lemma trend_unique (asks : threshold.Asks trend state m) (asks' : threshold.Asks trend' state m) :
    trend = trend' := by
  cases trend with
  | escalation =>
    cases trend' with
    | escalation => rfl
    | recovery => exact absurd asks' (Nat.lt_asymm asks)
  | recovery =>
    cases trend' with
    | escalation => exact absurd asks' (Nat.lt_asymm asks)
    | recovery => rfl

/-- What a measurement that asks for a move does to a latch (source `advance_latch`). -/
lemma advance_asked (asks : threshold.Asks trend latch.state m)
    (known : isThresholdZone latch.state = true) :
    (threshold.after trend ≤ latch.consecutive + 1 ∧
        (latch.advance threshold m).state = latchZone threshold latch.state m.value ∧
        (latch.advance threshold m).consecutive = 0) ∨
      (latch.consecutive + 1 < threshold.after trend ∧
        (latch.advance threshold m).state = latch.state ∧
        (latch.advance threshold m).consecutive = latch.consecutive + 1) := by
  obtain ⟨same, _⟩ | ⟨trend', asks', moves⟩ := advance_cases threshold m known
  · rw [HealthThreshold.Asks, same] at asks
    cases trend <;> exact absurd asks (Nat.lt_irrefl _)
  · rw [trend_unique asks asks']
    exact moves

/-- Only the middle zone can be left both ways, and only when there is a more severe one
(source `zone_rank`). -/
lemma degraded_of_both {m' : Measurement} (up : threshold.Asks .escalation state m)
    (down : threshold.Asks .recovery state m') :
    state = .degraded ∧ threshold.hasCritical = true := by
  have high : zoneRank state < zoneRank (latchZone threshold state m.value) := up
  have low : zoneRank (latchZone threshold state m'.value) < zoneRank state := down
  obtain ⟨zone, has⟩ | ⟨zone, _⟩ | zone := latchZone_cases threshold state m.value
  · rw [zone] at high
    refine ⟨?_, has⟩
    cases state with
    | degraded => rfl
    | critical => exact absurd high (by decide)
    | _ => cases low
  · rw [zone] at high
    cases state with
    | degraded => exact absurd high (by decide)
    | critical => exact absurd high (by decide)
    | _ => cases low
  · rw [zone] at high
    cases high

/-- What reaches the middle zone from outside reaches the critical one, when the two begin at one
place (source `validate_threshold`). -/
lemma latchZone_ne_degraded (banded : threshold.Banded) (has : threshold.hasCritical = true)
    (outer : state ≠ .degraded) (noRoom : threshold.hasDegraded = false ∨
      threshold.degradedEnter.eq threshold.criticalEnter = true) (value : Binary64) :
    latchZone threshold state value ≠ .degraded := by
  intro entered
  obtain ⟨zone, _⟩ | ⟨_, degraded, below, reached⟩ | zone := latchZone_cases threshold state value
  · rw [zone] at entered
    cases entered
  · obtain absent | same := noRoom
    · rw [absent] at degraded
      cases degraded
    · obtain ⟨enterFinite, exitFinite, ordered⟩ := banded.critical has
      have below := below has
      rw [if_neg outer] at reached
      simp only [Binary64.eq, Bool.and_eq_true, Bool.not_eq_true', decide_eq_true_eq] at same
      have reaches : ∀ bound, bound.isNaN = false →
          threshold.direction.ordered bound threshold.criticalEnter = true →
          threshold.direction.reaches value bound = true := by
        intro bound number orderedBound
        cases direction : threshold.direction with
        | above =>
          simp only [direction, ThresholdDirection.reaches, ThresholdDirection.ordered, Binary64.le,
            Bool.and_eq_true, Bool.not_eq_true', decide_eq_true_eq] at reached orderedBound ⊢
          exact ⟨⟨number, reached.1.2⟩, by omega⟩
        | below =>
          simp only [direction, ThresholdDirection.reaches, ThresholdDirection.ordered, Binary64.le,
            Bool.and_eq_true, Bool.not_eq_true', decide_eq_true_eq] at reached orderedBound ⊢
          exact ⟨⟨reached.1.1, number⟩, by omega⟩
      have enterNumber := Binary64.not_isNaN_of_isFinite enterFinite
      split at below
      · rw [reaches _ (Binary64.not_isNaN_of_isFinite exitFinite) ordered] at below
        cases below
      · have self : threshold.direction.ordered threshold.criticalEnter threshold.criticalEnter =
            true := by
          cases threshold.direction <;>
            simp [ThresholdDirection.ordered, Binary64.le, enterNumber]
        rw [reaches _ enterNumber self] at below
        cases below
  · rw [zone] at entered
    cases entered

/-- A threshold that is one-way stays so in the zones that a latch moves to. -/
lemma HealthThreshold.OneWay.latchZone (oneWay : threshold.OneWay state) (banded : threshold.Banded)
    (value : Binary64) : threshold.OneWay (latchZone threshold state value) := by
  obtain once | once | absent | ⟨outer, noRoom⟩ := oneWay
  · exact .inl once
  · exact .inr (.inl once)
  · exact .inr (.inr (.inl absent))
  · cases has : threshold.hasCritical with
    | false => exact .inr (.inr (.inl has))
    | true => exact .inr (.inr (.inr ⟨latchZone_ne_degraded banded has outer noRoom value, noRoom⟩))

/-- The count of a latch is the length of a streak that all asks for one move. -/
structure Streaking (threshold : HealthThreshold) (latch : HealthLatch)
    (measurements : List Measurement) : Prop where
  known : isThresholdZone latch.state = true
  oneWay : threshold.OneWay latch.state
  streak : latch.consecutive = 0 ∨ ∃ trend, latch.consecutive < threshold.after trend ∧
    LastMeet (threshold.Asks trend latch.state) latch.consecutive.toNat measurements

/-- One more measurement keeps the streak, and moves the latch only when the streak is long enough
(source `advance_latch`). -/
lemma Streaking.advance (banded : threshold.Banded) (h : Streaking threshold latch front)
    (m : Measurement) : Streaking threshold (latch.advance threshold m) (front ++ [m]) ∧
      ∀ trend : Trend, trend.Departs latch.state (latch.advance threshold m).state →
        LastMeet (threshold.Asks trend latch.state) (threshold.after trend).toNat
          (front ++ [m]) := by
  have self (trend : Trend) : ¬ trend.Departs latch.state latch.state := by
    cases trend <;> exact Nat.lt_irrefl _
  obtain ⟨_, state, count⟩ | ⟨trend, asks, moves⟩ := advance_cases threshold m h.known
  · rw [state]
    refine ⟨⟨by rw [state]; exact h.known, by rw [state]; exact h.oneWay, .inl count⟩, ?_⟩
    exact fun trend departs => absurd departs (self trend)
  · -- the streak goes on, or the measurement asks for a move that takes only one
    have longer : LastMeet (threshold.Asks trend latch.state) (latch.consecutive.toNat + 1)
        (front ++ [m]) ∨ threshold.after trend = 1 := by
      obtain none | ⟨trend', short, streak⟩ := h.streak
      · rw [none]
        exact .inl (lastMeet_concat.2 ⟨.zero, asks⟩)
      by_cases same : trend' = trend
      · subst same
        exact .inl (lastMeet_concat.2 ⟨streak, asks⟩)
      by_cases none : latch.consecutive = 0
      · rw [none]
        exact .inl (lastMeet_concat.2 ⟨.zero, asks⟩)
      -- a streak of the other kind: the latch is in the middle zone
      obtain ⟨old, recent, _, length, all⟩ := streak
      have positive : 0 < latch.consecutive.toNat := Nat.pos_of_ne_zero fun zero =>
        none (UInt32.toNat_inj.1 zero)
      obtain ⟨m', member⟩ := List.exists_mem_of_length_pos (length ▸ positive)
      have other : threshold.after trend' ≠ 1 := by
        intro once
        rw [once, UInt32.lt_iff_toNat_lt] at short
        exact absurd short (Nat.not_lt.2 positive)
      have both : latch.state = .degraded ∧ threshold.hasCritical = true := by
        cases trend with
        | escalation =>
          cases trend' with
          | escalation => exact absurd rfl same
          | recovery => exact degraded_of_both asks (all m' member)
        | recovery =>
          cases trend' with
          | escalation => exact degraded_of_both (all m' member) asks
          | recovery => exact absurd rfl same
      obtain once | once | absent | ⟨outer, _⟩ := h.oneWay
      · cases trend with
        | escalation => exact .inr once
        | recovery =>
          cases trend' with
          | escalation => exact absurd once other
          | recovery => exact absurd rfl same
      · cases trend with
        | recovery => exact .inr once
        | escalation =>
          cases trend' with
          | escalation => exact absurd rfl same
          | recovery => exact absurd once other
      · rw [both.2] at absent
        cases absent
      · exact absurd both.1 outer
    have room : (latch.consecutive + 1).toNat = latch.consecutive.toNat + 1 := by
      have bounded : latch.consecutive.toNat + 1 < 2 ^ 32 := by
        obtain none | ⟨trend', short, _⟩ := h.streak
        · rw [none]
          decide
        · have := (threshold.after trend').toNat_lt
          rw [UInt32.lt_iff_toNat_lt] at short
          omega
      rw [UInt32.toNat_add]
      exact Nat.mod_eq_of_lt bounded
    obtain ⟨enough, state, count⟩ | ⟨short, state, count⟩ := moves
    · refine ⟨⟨?_, ?_, .inl count⟩, fun moved departs => ?_⟩
      · rw [state]
        exact isThresholdZone_latchZone ..
      · rw [state]
        exact h.oneWay.latchZone banded m.value
      · -- the move is the one that was asked for
        rw [state] at departs
        obtain rfl := trend_unique asks departs
        obtain streak | once := longer
        · rw [UInt32.le_iff_toNat_le, room] at enough
          exact streak.of_le enough
        · rw [once]
          exact lastMeet_concat.2 ⟨.zero, asks⟩
    · have streak := longer.resolve_right fun once => by
        rw [once, UInt32.lt_iff_toNat_lt, room] at short
        exact absurd short (by simp)
      rw [← room] at streak
      rw [state]
      refine ⟨⟨by rw [state]; exact h.known, by rw [state]; exact h.oneWay,
        .inr ⟨trend, ?_, ?_⟩⟩, ?_⟩
      · rw [count]
        exact short
      · rw [state, count]
        exact streak
      · exact fun moved departs => absurd departs (self moved)

/-- Along every sequence of measurements the count is the length of a streak (source
`advance_latch`). -/
lemma Streaking.advanceAll (banded : threshold.Banded) (h : Streaking threshold latch [])
    (measurements : List Measurement) :
    Streaking threshold (latch.advanceAll threshold measurements) measurements := by
  induction measurements using List.reverseRecOn with
  | nil => exact h
  | append_singleton front m ih =>
    rw [HealthLatch.advanceAll, List.foldl_append]
    exact (ih.advance banded m).1

/-- A latch that starts without a count honours the counts of a one-way threshold (source
`advance_latch`). -/
lemma countsHonoured_of_oneWay (banded : threshold.Banded)
    (known : isThresholdZone latch.state = true) (fresh : latch.consecutive = 0)
    (oneWay : threshold.OneWay latch.state) (measurements : List Measurement) :
    CountsHonoured threshold latch measurements := by
  intro front m back _ trend departs
  have start : Streaking threshold latch [] := ⟨known, oneWay, .inl fresh⟩
  exact ((start.advanceAll banded front).advance banded m).2 trend departs

section Mixed

/-- A measurement of a value. -/
def Measurement.of (value : Binary64) : Measurement := ⟨value, 0, 0, 0⟩

/-- The least severe value. -/
def HealthThreshold.idle (threshold : HealthThreshold) : Binary64 :=
  .ofMagnitude (decide (threshold.direction = .above)) Binary64.infinite

/-- The least severe value reaches no bound (source `advance_latch`, the comparisons). -/
lemma idle_reaches {bound : Binary64} (finite : bound.isFinite = true) :
    threshold.direction.reaches threshold.idle bound = false := by
  simp only [Binary64.isFinite, decide_eq_true_eq] at finite
  have size : -(bound.magnitude : Int) ≤ bound.rank ∧ bound.rank ≤ bound.magnitude := by
    unfold Binary64.rank
    split <;> omega
  have rank : threshold.idle.rank =
      if decide (threshold.direction = .above) then -(Binary64.infinite : Int)
      else Binary64.infinite := Binary64.rank_ofMagnitude (Nat.le_refl _)
  cases direction : threshold.direction with
  | above =>
    rw [direction] at rank
    have low : threshold.idle.rank = -(Binary64.infinite : Int) := rank
    rw [ThresholdDirection.reaches, Binary64.le, Bool.and_eq_false_iff, decide_eq_false_iff_not,
      low]
    exact .inr (by omega)
  | below =>
    rw [direction] at rank
    have high : threshold.idle.rank = (Binary64.infinite : Int) := rank
    rw [ThresholdDirection.reaches, Binary64.le, Bool.and_eq_false_iff, decide_eq_false_iff_not,
      high]
    exact .inr (by omega)

/-- The least severe value is in no band (source `advance_latch`, `zone`). -/
lemma latchZone_idle (banded : threshold.Banded) (state : MetricState) :
    latchZone threshold state threshold.idle = .ok := by
  have critical : (threshold.hasCritical && threshold.direction.reaches threshold.idle
      (if state = .critical then threshold.criticalExit else threshold.criticalEnter)) = false := by
    cases has : threshold.hasCritical with
    | false => rfl
    | true =>
      obtain ⟨enter, exit, _⟩ := banded.critical has
      split
      · exact idle_reaches exit
      · exact idle_reaches enter
  have degraded : (threshold.hasDegraded && threshold.direction.reaches threshold.idle
      (if state = .degraded then threshold.degradedExit else threshold.degradedEnter)) = false := by
    cases has : threshold.hasDegraded with
    | false => rfl
    | true =>
      obtain ⟨enter, exit⟩ := banded.degraded has
      split
      · exact idle_reaches exit
      · exact idle_reaches enter
  rw [latchZone, critical, degraded]
  rfl

/-- A finite value reaches itself (source `advance_latch`, the comparisons). -/
lemma reaches_self (direction : ThresholdDirection) {bound : Binary64}
    (finite : bound.isFinite = true) : direction.reaches bound bound = true := by
  have number := Binary64.not_isNaN_of_isFinite finite
  cases direction <;> simp [ThresholdDirection.reaches, Binary64.le, number]

/-- One measurement after the others. -/
@[simp] lemma advanceAll_concat (threshold : HealthThreshold) (latch : HealthLatch)
    (front : List Measurement) (m : Measurement) :
    latch.advanceAll threshold (front ++ [m]) =
      (latch.advanceAll threshold front).advance threshold m := by
  simp [HealthLatch.advanceAll]

/-- Some measurements after the others. -/
lemma advanceAll_append (threshold : HealthThreshold) (latch : HealthLatch)
    (front back : List Measurement) :
    latch.advanceAll threshold (front ++ back) =
      (latch.advanceAll threshold front).advanceAll threshold back := List.foldl_append ..

/-- Fewer measurements than the threshold says are counted (source `advance_latch`). -/
lemma advanceAll_counts (asks : threshold.Asks trend latch.state m)
    (known : isThresholdZone latch.state = true) {n : Nat}
    (short : latch.consecutive.toNat + n < (threshold.after trend).toNat) :
    (latch.advanceAll threshold (List.replicate n m)).state = latch.state ∧
      (latch.advanceAll threshold (List.replicate n m)).consecutive.toNat =
        latch.consecutive.toNat + n := by
  induction n with
  | zero => exact ⟨rfl, rfl⟩
  | succ n ih =>
    obtain ⟨state, count⟩ := ih (by omega)
    have room : ((latch.advanceAll threshold (List.replicate n m)).consecutive + 1).toNat =
        latch.consecutive.toNat + n + 1 := by
      have := (threshold.after trend).toNat_lt
      rw [UInt32.toNat_add, count]
      show (latch.consecutive.toNat + n + 1) % 2 ^ 32 = _
      exact Nat.mod_eq_of_lt (by omega)
    rw [List.replicate_succ', advanceAll_concat]
    have still : threshold.Asks trend (latch.advanceAll threshold (List.replicate n m)).state m :=
      state ▸ asks
    obtain ⟨enough, _⟩ | ⟨_, state', count'⟩ := advance_asked still (state ▸ known)
    · rw [UInt32.le_iff_toNat_le, room] at enough
      omega
    · exact ⟨state'.trans state, by rw [count', room, Nat.add_assoc]⟩

/-- The measurement that completes the count moves the latch (source `advance_latch`). -/
lemma advanceAll_completes (asks : threshold.Asks trend latch.state m)
    (known : isThresholdZone latch.state = true) {n : Nat}
    (last : latch.consecutive.toNat + n + 1 = (threshold.after trend).toNat) :
    ((latch.advanceAll threshold (List.replicate n m)).advance threshold m).state =
        latchZone threshold latch.state m.value ∧
      ((latch.advanceAll threshold (List.replicate n m)).advance threshold m).consecutive = 0 := by
  obtain ⟨state, count⟩ := advanceAll_counts asks known (n := n) (by omega)
  have room : ((latch.advanceAll threshold (List.replicate n m)).consecutive + 1).toNat =
      (threshold.after trend).toNat := by
    have := (threshold.after trend).toNat_lt
    rw [UInt32.toNat_add, count]
    show (latch.consecutive.toNat + n + 1) % 2 ^ 32 = _
    rw [last]
    exact Nat.mod_eq_of_lt this
  have still : threshold.Asks trend (latch.advanceAll threshold (List.replicate n m)).state m :=
    state ▸ asks
  obtain ⟨_, state', count'⟩ | ⟨short, _⟩ := advance_asked still (state ▸ known)
  · exact ⟨by rw [state', state], count'⟩
  · rw [UInt32.lt_iff_toNat_lt, room] at short
    exact absurd short (Nat.lt_irrefl _)

/-- Enough measurements move a latch (source `advance_latch`). -/
lemma advanceAll_moves (banded : threshold.Banded) (asks : threshold.Asks trend latch.state m)
    (known : isThresholdZone latch.state = true) (fresh : latch.consecutive = 0) :
    ∃ front, (latch.advanceAll threshold front).state = latchZone threshold latch.state m.value ∧
      (latch.advanceAll threshold front).consecutive = 0 := by
  have some : 0 < (threshold.after trend).toNat := Nat.pos_of_ne_zero fun zero =>
    banded.after trend (UInt32.toNat_inj.1 zero)
  refine ⟨List.replicate ((threshold.after trend).toNat - 1) m ++ [m], ?_⟩
  rw [advanceAll_concat]
  refine advanceAll_completes asks known ?_
  rw [fresh, UInt32.toNat_zero]
  omega

/-- The bound of the critical band reaches it (source `advance_latch`, `zone`). -/
lemma latchZone_criticalEnter (banded : threshold.Banded) (has : threshold.hasCritical = true)
    (outer : state ≠ .critical) :
    latchZone threshold state threshold.criticalEnter = .critical := by
  have reached := reaches_self threshold.direction (banded.critical has).1
  simp [latchZone, has, outer, reached]

/-- The bound of a middle band that is milder than the critical one reaches the middle band
(source `advance_latch`, `zone`). -/
lemma latchZone_degradedEnter (banded : threshold.Banded) (has : threshold.hasDegraded = true)
    (critical : threshold.hasCritical = true)
    (milder : threshold.degradedEnter.eq threshold.criticalEnter = false) :
    latchZone threshold .ok threshold.degradedEnter = .degraded := by
  have ordered := banded.both has critical
  have below : threshold.direction.reaches threshold.degradedEnter threshold.criticalEnter =
      false := by
    have enter := Binary64.not_isNaN_of_isFinite (banded.degraded has).1
    have enter' := Binary64.not_isNaN_of_isFinite (banded.critical critical).1
    simp only [Binary64.eq, enter, enter', Bool.not_false, Bool.true_and, Bool.and_self,
      decide_eq_false_iff_not] at milder
    cases direction : threshold.direction with
    | above =>
      simp only [direction, ThresholdDirection.ordered, ThresholdDirection.reaches, Binary64.le,
        enter, enter', Bool.not_false, Bool.true_and, decide_eq_true_eq, decide_eq_false_iff_not]
        at ordered ⊢
      omega
    | below =>
      simp only [direction, ThresholdDirection.ordered, ThresholdDirection.reaches, Binary64.le,
        enter, enter', Bool.not_false, Bool.true_and, decide_eq_true_eq, decide_eq_false_iff_not]
        at ordered ⊢
      omega
  have reached := reaches_self threshold.direction (banded.degraded has).1
  simp [latchZone, has, critical, below, reached]

/-- A threshold that is not one-way lets a latch reach the middle zone (source `advance_latch`). -/
lemma exists_degraded (banded : threshold.Banded) (known : isThresholdZone latch.state = true)
    (fresh : latch.consecutive = 0) (mixed : ¬ threshold.OneWay latch.state) :
    ∃ front, (latch.advanceAll threshold front).state = .degraded ∧
      (latch.advanceAll threshold front).consecutive = 0 := by
  by_cases inside : latch.state = .degraded
  · exact ⟨[], inside, fresh⟩
  simp only [HealthThreshold.OneWay, not_or, not_and, Bool.not_eq_false, Bool.not_eq_true]
    at mixed
  obtain ⟨_, _, critical, room⟩ := mixed
  obtain ⟨has, milder⟩ := room inside
  have enters : latchZone threshold .ok threshold.degradedEnter = .degraded :=
    latchZone_degradedEnter banded has critical milder
  have fromOk : ∀ {latch : HealthLatch}, latch.state = .ok → latch.consecutive = 0 →
      ∃ front, (latch.advanceAll threshold front).state = .degraded ∧
        (latch.advanceAll threshold front).consecutive = 0 := by
    intro latch ok fresh
    have asks : threshold.Asks .escalation latch.state (.of threshold.degradedEnter) := by
      show zoneRank latch.state < zoneRank (latchZone threshold latch.state threshold.degradedEnter)
      rw [ok, enters]
      decide
    obtain ⟨front, state, count⟩ := advanceAll_moves banded asks (by rw [ok]; rfl) fresh
    refine ⟨front, ?_, count⟩
    rw [state, ok]
    exact enters
  cases state : latch.state with
  | ok => exact fromOk state fresh
  | degraded => exact absurd state inside
  | critical =>
    have asks : threshold.Asks .recovery latch.state (.of threshold.idle) := by
      show zoneRank (latchZone threshold latch.state threshold.idle) < zoneRank latch.state
      rw [latchZone_idle banded, state]
      decide
    obtain ⟨front, recovered, count⟩ := advanceAll_moves banded asks known fresh
    obtain ⟨front', reached⟩ := fromOk (recovered.trans (latchZone_idle banded _)) count
    refine ⟨front ++ front', ?_⟩
    rw [advanceAll_append]
    exact reached
  | _ => simp [state, isThresholdZone] at known

/-- In the middle zone of a threshold that is not one-way a recovery measurement is counted for an
escalation (source `advance_latch`, `consecutive`). -/
lemma not_countsHonoured (banded : threshold.Banded) (known : isThresholdZone latch.state = true)
    (fresh : latch.consecutive = 0) (mixed : ¬ threshold.OneWay latch.state) :
    ∃ measurements, ¬ CountsHonoured threshold latch measurements := by
  obtain ⟨front, middle, count⟩ := exists_degraded banded known fresh mixed
  simp only [HealthThreshold.OneWay, not_or, not_and, Bool.not_eq_false, Bool.not_eq_true]
    at mixed
  obtain ⟨slowUp, slowDown, critical, _⟩ := mixed
  have up : 1 < threshold.escalateAfter.toNat := by
    have some : threshold.escalateAfter.toNat ≠ 0 := fun zero =>
      banded.after .escalation (UInt32.toNat_inj.1 zero)
    have more : threshold.escalateAfter.toNat ≠ 1 := fun one => slowUp (UInt32.toNat_inj.1 one)
    omega
  have down : 1 < threshold.recoverAfter.toNat := by
    have some : threshold.recoverAfter.toNat ≠ 0 := fun zero =>
      banded.after .recovery (UInt32.toNat_inj.1 zero)
    have more : threshold.recoverAfter.toNat ≠ 1 := fun one => slowDown (UInt32.toNat_inj.1 one)
    omega
  -- one measurement that asks for recovery
  have asksDown : threshold.Asks .recovery (latch.advanceAll threshold front).state
      (.of threshold.idle) := by
    show zoneRank (latchZone threshold _ threshold.idle) < zoneRank _
    rw [latchZone_idle banded, middle]
    decide
  obtain ⟨state, first⟩ := advanceAll_counts asksDown (by rw [middle]; rfl) (n := 1)
    (by rw [count]; exact down)
  rw [← advanceAll_append, List.replicate_one] at state first
  rw [middle] at state
  rw [count] at first
  -- the others ask for escalation, and are one fewer than the threshold says
  have entered : latchZone threshold .degraded threshold.criticalEnter = .critical :=
    latchZone_criticalEnter banded critical (by decide)
  have asksUp : threshold.Asks .escalation
      (latch.advanceAll threshold (front ++ [.of threshold.idle])).state
      (.of threshold.criticalEnter) := by
    show zoneRank _ < zoneRank (latchZone threshold _ threshold.criticalEnter)
    rw [state, entered]
    decide
  have last : (latch.advanceAll threshold (front ++ [.of threshold.idle])).consecutive.toNat +
      (threshold.escalateAfter.toNat - 2) + 1 = (threshold.after .escalation).toNat := by
    rw [first]
    show 0 + 1 + (threshold.escalateAfter.toNat - 2) + 1 = threshold.escalateAfter.toNat
    omega
  obtain ⟨moved, _⟩ := advanceAll_completes asksUp (by rw [state]; rfl) last
  obtain ⟨still, _⟩ := advanceAll_counts asksUp (by rw [state]; rfl)
    (n := threshold.escalateAfter.toNat - 2) (by omega)
  rw [← advanceAll_append] at moved still
  refine ⟨front ++ [.of threshold.idle] ++ List.replicate (threshold.escalateAfter.toNat - 2)
    (.of threshold.criticalEnter) ++ [.of threshold.criticalEnter], fun honoured => ?_⟩
  have asked := honoured (front ++ [.of threshold.idle] ++
    List.replicate (threshold.escalateAfter.toNat - 2) (.of threshold.criticalEnter))
    (.of threshold.criticalEnter) [] rfl .escalation (by
      show zoneRank _ < zoneRank _
      rw [moved, still, state]
      show _ < zoneRank (latchZone threshold .degraded threshold.criticalEnter)
      rw [entered]
      decide)
  rw [still, state] at asked
  have parts : (threshold.after .escalation).toNat =
      0 + 1 + (threshold.escalateAfter.toNat - 2) + 1 := by
    show threshold.escalateAfter.toNat = _
    omega
  rw [parts] at asked
  have recovery := (lastMeet_concat.1 (lastMeet_concat.1 asked).1.of_append_replicate).2
  have wrong : zoneRank .degraded < zoneRank (latchZone threshold .degraded threshold.idle) :=
    recovery
  rw [latchZone_idle banded] at wrong
  cases wrong

end Mixed

/-- Along every sequence of measurements each move of a latch was asked for as often as the
threshold says, exactly when the threshold is one-way (source `advance_latch`). -/
theorem hysteresis_counts_honoured_iff (accepted : validateThreshold threshold = .ok ())
    (known : isThresholdZone latch.state = true) (fresh : latch.consecutive = 0) :
    (∀ measurements, CountsHonoured threshold latch measurements) ↔
      threshold.OneWay latch.state := by
  have banded := HealthThreshold.Banded.ofAccepted accepted
  refine ⟨fun honoured => ?_, countsHonoured_of_oneWay banded known fresh⟩
  by_contra mixed
  obtain ⟨measurements, broken⟩ := not_countsHonoured banded known fresh mixed
  exact broken (honoured measurements)

/-- The counts of a policy that escalates at once are honoured from the nominal zone. -/
theorem hysteresis_counts_honoured_at_once :
    (∀ measurements, CountsHonoured (temperaturePolicy 1) { HealthLatch.new with state := .ok }
        measurements) ↔
      (temperaturePolicy 1).OneWay .ok := by
  have accepted : validateThreshold (temperaturePolicy 1) = .ok () := by decide +kernel
  have known : isThresholdZone { HealthLatch.new with state := .ok }.state = true := rfl
  exact hysteresis_counts_honoured_iff accepted known rfl

/-- Two warm readings and a cool one. -/
def warmThenCool : List Measurement :=
  [.of (.ofInt 72), .of (.ofInt 72)] ++ [.of (.ofInt 60)]

/-- One cool reading and one hot one make a latch critical that asks for two hot readings. -/
theorem cool_reading_counts_as_hot :
    validateThreshold (temperaturePolicy 2) = .ok () ∧
      ¬ CountsHonoured (temperaturePolicy 2) { HealthLatch.new with state := .ok }
        (warmThenCool ++ [.of (.ofInt 85)]) := by
  refine ⟨by decide +kernel, fun honoured => ?_⟩
  have middle : (HealthLatch.advanceAll (temperaturePolicy 2) { HealthLatch.new with state := .ok }
      warmThenCool).state = .degraded := by decide +kernel
  have moved : ((HealthLatch.advanceAll (temperaturePolicy 2)
      { HealthLatch.new with state := .ok } warmThenCool).advance (temperaturePolicy 2)
      (.of (.ofInt 85))).state = .critical := by decide +kernel
  have asked := honoured warmThenCool (.of (.ofInt 85)) [] rfl .escalation (by
    rw [middle, moved]
    show zoneRank .degraded < zoneRank .critical
    decide)
  rw [middle] at asked
  have earlier : LastMeet ((temperaturePolicy 2).Asks .escalation .degraded) (0 + 1)
      warmThenCool := (lastMeet_concat.1 asked).1
  have cool : zoneRank .degraded < zoneRank (latchZone (temperaturePolicy 2) .degraded
      (.ofInt 60)) := (lastMeet_concat.1 earlier).2
  exact absurd cool (by decide +kernel)

end TransceiverRegistry

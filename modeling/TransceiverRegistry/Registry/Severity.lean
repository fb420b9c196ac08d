import TransceiverRegistry.Lib.Gate
import TransceiverRegistry.Registry.Hysteresis

/-!
# Severity of a latch

A more severe measurement never leaves a latch in a less severe zone. The bounds are those of the
zone the latch is in, so both measurements are compared with the same bounds; and the count is the
same for both, so the ways out of the zone are open for both or for neither.
-/

namespace TransceiverRegistry

open Lib

variable {threshold : HealthThreshold} {latch : HealthLatch} {m m' : Measurement}
  {value value' bound : Binary64}

/-- What is more severe reaches the bounds that a measurement reaches (source `advance_latch`). -/
lemma ThresholdDirection.reaches_trans {direction : ThresholdDirection}
    (severe : direction.reaches value' value = true) (reached : direction.reaches value bound = true) :
    direction.reaches value' bound = true := by
  cases direction with
  | above =>
    simp only [reaches, Binary64.le, Bool.and_eq_true, Bool.not_eq_true', decide_eq_true_eq]
      at severe reached ⊢
    exact ⟨⟨reached.1.1, severe.1.2⟩, Int.le_trans reached.2 severe.2⟩
  | below =>
    simp only [reaches, Binary64.le, Bool.and_eq_true, Bool.not_eq_true', decide_eq_true_eq]
      at severe reached ⊢
    exact ⟨⟨severe.1.1, reached.1.2⟩, Int.le_trans severe.2 reached.2⟩

/-- By the bounds of one zone, a more severe measurement is in a zone at least as severe (source
`advance_latch`, `zone`). -/
lemma zoneRank_latchZone_mono (severe : threshold.direction.reaches value' value = true)
    (state : MetricState) :
    zoneRank (latchZone threshold state value) ≤ zoneRank (latchZone threshold state value') := by
  have carries : ∀ (has : Bool) (bound : Binary64),
      (has && threshold.direction.reaches value bound) = true →
      (has && threshold.direction.reaches value' bound) = true := by
    intro has bound reached
    rw [Bool.and_eq_true] at reached ⊢
    exact ⟨reached.1, ThresholdDirection.reaches_trans severe reached.2⟩
  have toCritical := carries threshold.hasCritical
    (if state = .critical then threshold.criticalExit else threshold.criticalEnter)
  have toDegraded := carries threshold.hasDegraded
    (if state = .degraded then threshold.degradedExit else threshold.degradedEnter)
  unfold latchZone
  generalize (threshold.hasCritical && threshold.direction.reaches value _) = critical at toCritical ⊢
  generalize (threshold.hasDegraded && threshold.direction.reaches value _) = degraded at toDegraded ⊢
  cases critical with
  | true => rw [if_pos (toCritical rfl), if_pos rfl]
  | false =>
    cases degraded with
    | true =>
      rw [if_pos (toDegraded rfl), if_neg Bool.false_ne_true, if_pos rfl]
      generalize (threshold.hasCritical && threshold.direction.reaches value' _) = critical'
      cases critical' with
      | true => exact Nat.le_succ 1
      | false => exact Nat.le_refl 1
    | false => exact Nat.zero_le _

/-- Two zones of one rank are the same (source `zone_rank`). -/
lemma zoneRank_inj {zone zone' : MetricState} (known : isThresholdZone zone = true)
    (known' : isThresholdZone zone' = true) : zoneRank zone = zoneRank zone' ↔ zone = zone' := by
  cases zone <;> cases known <;> cases zone' <;> cases known' <;> decide

/-- The zone of a latch after one more measurement (source `advance_latch`). -/
lemma state_advance (threshold : HealthThreshold) (latch : HealthLatch) (m : Measurement) :
    (latch.advance threshold m).state =
      (latchMove threshold (latch.state, latch.consecutive) m.value).1 := by
  have moved := advanceLatch_move threshold latch m.value m.wallNs m.sequence m.generation
  exact congrArg Prod.fst moved

/-- A latch in a zone makes a gated move: the count opens the way up and the way down (source
`advance_latch`). -/
lemma zoneRank_advance (known : isThresholdZone latch.state = true) (m : Measurement) :
    zoneRank (latch.advance threshold m).state =
      gatedMove (decide (threshold.escalateAfter ≤ latch.consecutive + 1))
        (decide (threshold.recoverAfter ≤ latch.consecutive + 1)) (zoneRank latch.state)
        (zoneRank (latchZone threshold latch.state m.value)) := by
  have zones := zoneRank_inj (isThresholdZone_latchZone threshold latch.state m.value) known
  rw [state_advance]
  simp only [latchMove, known, Bool.true_eq_false, if_false, gatedMove, zones, decide_eq_true_eq]
  split
  · rfl
  · split <;> split <;> rfl

/-- A latch that has taken a measurement is in a zone (source `advance_latch`). -/
lemma isThresholdZone_advance (threshold : HealthThreshold) (latch : HealthLatch)
    (m : Measurement) : isThresholdZone (latch.advance threshold m).state = true := by
  rw [state_advance]
  exact latchMove_zone threshold _ m.value

/-- Whatever the threshold and whatever the latch, the first measurement or a later one: a more severe
measurement leaves the latch in a zone at least as severe (source `advance_latch`). -/
theorem latch_monotone (threshold : HealthThreshold) (latch : HealthLatch) (m m' : Measurement)
    (severe : threshold.direction.reaches m'.value m.value = true) :
    isThresholdZone (latch.advance threshold m).state = true ∧
    isThresholdZone (latch.advance threshold m').state = true ∧
    zoneRank (latch.advance threshold m).state ≤ zoneRank (latch.advance threshold m').state := by
  refine ⟨isThresholdZone_advance threshold latch m, isThresholdZone_advance threshold latch m', ?_⟩
  have asked := zoneRank_latchZone_mono severe latch.state
  cases known : isThresholdZone latch.state with
  | true =>
    rw [zoneRank_advance known, zoneRank_advance known]
    exact gatedMove_mono _ _ _ asked
  | false =>
    -- the first measurement puts the latch in its own zone
    have first : ∀ m : Measurement,
        (latch.advance threshold m).state = latchZone threshold latch.state m.value := by
      intro m
      rw [state_advance]
      simp only [latchMove, known, if_true]
    rw [first, first]
    exact asked

/-- A critical latch that sees 76 degrees is no less severe than one that sees 60. -/
theorem latch_monotone_warmer :
    zoneRank (HealthLatch.advance (temperaturePolicy 1) { HealthLatch.new with state := .critical }
      (.of (.ofInt 60))).state ≤
    zoneRank (HealthLatch.advance (temperaturePolicy 1) { HealthLatch.new with state := .critical }
      (.of (.ofInt 76))).state :=
  (latch_monotone (temperaturePolicy 1) { HealthLatch.new with state := .critical } (.of (.ofInt 60))
    (.of (.ofInt 76)) (by decide +kernel)).2.2

end TransceiverRegistry

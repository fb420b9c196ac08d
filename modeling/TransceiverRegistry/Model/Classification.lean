import TransceiverRegistry.Model.Health
import Mathlib.Data.List.Basic

/-!
# Classification of one series

Port of `classify_series` of `health.cpp`: the newest live sample of each source is judged against
the effective threshold and the clock.
-/

namespace TransceiverRegistry

open Lib

/-- Why a row of a report is an issue (source `HealthIssueKind`). -/
inductive HealthIssueKind where
  | missing | stale | fenced | sourceConflict | noThreshold | notAvailable | readError
  | notSupported | futureTimestamp | outOfRange | supersededThreshold
deriving DecidableEq

/-- What the evidence says about one series (source `SeriesClassification`). -/
structure SeriesClassification where
  state : MetricState := .unknown
  reasonKind : HealthIssueKind := .missing
  hasValue : Bool := false
  value : Binary64 := .ofInt 0
  hasAge : Bool := false
  ageNs : Int := 0
  fresh : Nat := 0
  stale : Nat := 0
  fenced : Nat := 0
  sources : Nat := 0
  reason : Bytes := []

/-- The samples kept of each source, in the order of the sources (source `newest_by_source`). -/
abbrev NewestBySource := List (SourceId × HealthSample)

/-- Set the sample of a source (source `newest_by_source[...] = ...`). -/
def NewestBySource.set : NewestBySource → SourceId → HealthSample → NewestBySource
  | [], source, sample => [(source, sample)]
  | entry :: rest, source, sample =>
    if source < entry.1 then (source, sample) :: entry :: rest
    else if source = entry.1 then (source, sample) :: rest
    else entry :: set rest source sample

/-- Take one sample into account: count it as fenced, or keep it when it is the newest of its source
(source `classify_series`, the first loop). -/
def scanSample (uid : ModuleUid) (incarnation : IncarnationId) (scan : NewestBySource × Nat)
    (sample : HealthSample) : NewestBySource × Nat :=
  if sample.module ≠ uid then scan
  else if sample.incarnation ≠ incarnation ∨ sample.live = false then (scan.1, scan.2 + 1)
  else match scan.1.lookup sample.source with
    | none => (scan.1.set sample.source sample, scan.2)
    | some existing =>
      if existing.observedAtWallNs ≤ sample.observedAtWallNs then
        (scan.1.set sample.source sample, scan.2)
      else scan

/-- The age of a sample, never negative (source `classify_series`, `age`). It is exact where the age of
the machine wraps at 64 bits, and so is the sum of the clock and the skew; `classifySeries64` judges
with the age of the machine, and `classifySeries64_eq` says when the two agree. -/
def sampleAge (nowWallNs : WallNs) (sample : HealthSample) : Int :=
  if sample.observedAtWallNs < nowWallNs then
    nowWallNs.toInt - sample.observedAtWallNs.toInt
  else 0

/-- The newest measurement of a series without policy (source `newest_present`). -/
def newestPresent (newest : NewestBySource) : Option HealthSample :=
  newest.foldl (fun best entry =>
    if entry.2.presence ≠ .present then best
    else match best with
      | none => some entry.2
      | some b => if b.observedAtWallNs ≤ entry.2.observedAtWallNs then some entry.2 else best) none

/-- What the second loop of the classification has seen (source `classify_series`). -/
structure FreshScan where
  freshValues : List Binary64 := []
  newestFresh : Option (HealthSample × Int) := none
  agedOutSources : Nat := 0
  presenceUnusableSources : Nat := 0
  futureSources : Nat := 0
  unusableReason : Bytes := []
  unusableKind : HealthIssueKind := .missing

/-- Remember the first reason why a source is unusable (source `unusable_reason`). -/
def FreshScan.note (scan : FreshScan) (reason : String) (kind : HealthIssueKind) : FreshScan :=
  if scan.unusableReason = [] then
    { scan with unusableReason := text reason, unusableKind := kind }
  else scan

/-- Judge the newest sample of one source (source `classify_series`, the second loop). -/
def scanFresh (maxAgeNs nowWallNs : WallNs) (maxFutureSkewNs : Int64) (scan : FreshScan)
    (sample : HealthSample) : FreshScan :=
  match sample.presence with
  | .notAvailable =>
    { scan with presenceUnusableSources := scan.presenceUnusableSources + 1 }.note
      "the module reports the metric as not available" .notAvailable
  | .readError =>
    { scan with presenceUnusableSources := scan.presenceUnusableSources + 1 }.note
      "the last read of the metric failed" .readError
  | .notSupported =>
    { scan with presenceUnusableSources := scan.presenceUnusableSources + 1 }.note
      "the metric is not supported by this module" .notSupported
  | .present =>
    if nowWallNs.toInt + maxFutureSkewNs.toInt < sample.observedAtWallNs.toInt then
      { scan with
        futureSources := scan.futureSources + 1
        agedOutSources := scan.agedOutSources + 1 }.note
        "the observation timestamp is in the future" .futureTimestamp
    else
      let age := sampleAge nowWallNs sample
      if maxAgeNs.toInt < age then
        { scan with agedOutSources := scan.agedOutSources + 1 }.note
          "the newest sample is older than the freshness bound" .stale
      else
        { scan with
          freshValues := scan.freshValues ++ [sample.value]
          newestFresh := match scan.newestFresh with
            | none => some (sample, age)
            | some best =>
              if best.1.observedAtWallNs ≤ sample.observedAtWallNs then some (sample, age)
              else some best }

/-- The reason, or a default when there is none. -/
def orReason (reason : Bytes) (default : String) : Bytes :=
  if reason = [] then text default else reason

/-- The difference of the largest and the smallest value (source `highest - lowest`). -/
def spread (first : Binary64) (values : List Binary64) : Binary64 :=
  (values.foldl Binary64.max first).sub (values.foldl Binary64.min first)

/-- Judge a series by its evidence and its policy (source `classify_series`). -/
def classifySeries (samples : List HealthSample) (threshold : Option HealthThreshold)
    (uid : ModuleUid) (incarnation : IncarnationId) (nowWallNs : WallNs)
    (maxFutureSkewNs : Int64) : SeriesClassification :=
  let scan := samples.foldl (scanSample uid incarnation) ([], 0)
  let newest := scan.1
  let result : SeriesClassification := { fenced := scan.2, sources := newest.length }
  if newest = [] then
    if 0 < scan.2 then
      { result with
        state := .fenced, reasonKind := .fenced
        reason := text "every sample belongs to a fenced incarnation" }
    else { result with reason := text "no sample has been ingested for this metric" }
  else match threshold with
  | none =>
    match newestPresent newest with
    | none => { result with
        reasonKind := .notAvailable
        reason := text "no usable measurement is available and no threshold is published" }
    | some sample => { result with
        state := .unclassified, hasValue := true, value := sample.value, hasAge := true
        ageNs := sampleAge nowWallNs sample, reasonKind := .noThreshold
        reason := text "no threshold is published for this metric" }
  | some threshold =>
    let fresh := newest.foldl (fun scan entry =>
      scanFresh threshold.maxAgeNs nowWallNs maxFutureSkewNs scan entry.2) {}
    let result := { result with
      fresh := fresh.freshValues.length
      stale := fresh.agedOutSources + fresh.presenceUnusableSources }
    match fresh.freshValues, fresh.newestFresh with
    | first :: rest, some (sample, age) =>
      let result := { result with
        hasValue := true, value := sample.value, hasAge := true, ageNs := age }
      if 1 < (first :: rest).length ∧
          threshold.disagreementTolerance.lt (spread first (first :: rest)) = true then
        { result with
          state := .conflicting, reasonKind := .sourceConflict
          reason := text "live sources disagree beyond the published tolerance" }
      else
        { result with
          state := classifyValue threshold sample.value
          reason := text "classified against the published threshold" }
    | _, _ =>
      if 0 < fresh.agedOutSources then
        { result with
          state := .stale
          reasonKind := if 0 < fresh.futureSources then .futureTimestamp else .stale
          reason := orReason fresh.unusableReason
            "the newest sample is older than the freshness bound" }
      else
        { result with
          reasonKind := fresh.unusableKind
          reason := orReason fresh.unusableReason "no usable measurement is available" }

end TransceiverRegistry

import TransceiverRegistry.Model.Lifecycle
import TransceiverRegistry.Model.Classification
import TransceiverRegistry.Model.Compatibility

/-!
# Registry state

Port of `registry_internal.hpp` and of the configuration of `registry.hpp`. A `std::map` is an
extensional ordered map with the same order of keys, so its list of entries is the iteration order
of the source.
-/

namespace TransceiverRegistry

open Lib

/-- Bounds of a registry (source `RegistryConfig`). -/
structure RegistryConfig where
  maxSources : UInt32 := 256
  maxModules : UInt32 := 4096
  maxPorts : UInt32 := 4096
  maxRules : UInt32 := 4096
  maxThresholds : UInt32 := 4096
  maxAttachments : UInt32 := 4096
  maxClaimsPerModule : UInt32 := 4096
  maxDeclarationsPerModule : UInt32 := 4096
  maxDeclarationsPerPort : UInt32 := 1024
  maxSamplesPerSeries : UInt32 := 256
  maxSamplesPerModule : UInt32 := 65536
  maxClaimHistory : UInt32 := 64
  maxLifecycleHistory : UInt32 := 64
  maxLaneIndex : UInt16 := 63
  maxFutureSkewNs : WallNs := 5000000000

/-- The readings an operation takes from its clock, by the order of the calls (source `Clock`). -/
structure Clock where
  wallNowNs : Nat → WallNs
  monotonicNowNs : UInt64
  domain : Nat → ClockDomainId

/-- The hysteresis latch of one series (source `HealthLatchRecord`). -/
structure HealthLatchRecord where
  metric : HealthMetric
  lane : UInt16
  latch : HealthLatch
deriving DecidableEq

/-- A published threshold (source `ThresholdRecord`). -/
structure ThresholdRecord where
  threshold : HealthThreshold
  generation : Generation
  sequence : Sequence
  live : Bool

/-- A metric number and a lane (source `std::pair<std::uint8_t, std::uint16_t>`). -/
abbrev SeriesKey := UInt8 × UInt16

/-- The series of a metric and a lane. -/
def seriesKey (metric : HealthMetric) (lane : UInt16) : SeriesKey := (UInt8.ofNat (code metric), lane)

/-- The order of series (source `operator<=>(std::pair)`). -/
def compareSeries : SeriesKey → SeriesKey → Ordering :=
  compareLex (compareOn (·.1)) (compareOn (·.2))

instance : Std.TransCmp compareSeries := by
  unfold compareSeries
  infer_instance

instance : Std.LawfulEqCmp compareSeries where
  eq_of_compare {a b} h := by
    simp only [compareSeries, compareLex, compareOn, Ordering.then_eq_eq,
      Std.LawfulEqCmp.compare_eq_iff_eq] at h
    exact Prod.ext h.1 h.2

/-- Everything known about one module key (source `ModuleRecord`). -/
structure ModuleRecord where
  key : ModuleKey
  uid : ModuleUid
  incarnation : IncarnationId
  state : LifecycleState
  stateGeneration : Generation
  stateSequence : Sequence
  stateWallNs : WallNs
  createdGeneration : Generation
  createdSequence : Sequence
  createdWallNs : WallNs
  fencedGeneration : Generation
  incarnationCount : UInt32
  claims : List IdentityClaim
  declarations : List CapabilityDeclaration
  samples : List HealthSample
  lifecycle : List LifecycleEvent
  latches : List HealthLatchRecord
  seriesCounts : Std.ExtTreeMap SeriesKey UInt32 compareSeries

/-- Everything known about one host port (source `PortRecord`). -/
structure PortRecord where
  key : PortKey
  firstGeneration : Generation
  sequence : Sequence
  firstWallNs : WallNs
  declarations : List CapabilityDeclaration

/-- A registered source (source `SourceRecord`). -/
structure SourceRecord where
  id : SourceId
  name : Bytes
  epoch : SourceEpoch
  descriptor : SourceDescriptor
  generation : Generation
  sequence : Sequence
  registeredWallNs : WallNs
deriving DecidableEq

/-- The occupation of a slot (source `AttachmentRecord`). -/
structure AttachmentRecord where
  slot : SlotKey
  portIndex : UInt32
  uid : ModuleUid
  incarnation : IncarnationId
  source : SourceId
  sourceEpoch : SourceEpoch
  generation : Generation
  sequence : Sequence
  attachedAtWallNs : WallNs
  live : Bool
  note : Bytes
deriving DecidableEq

/-- One committed state of the registry (source `State`). -/
structure State where
  generation : Generation
  registryIncarnation : UInt32
  nextModuleUid : UInt64
  nextRuleId : UInt64
  nextSourceId : UInt64
  nextSequence : UInt64
  sources : Std.ExtTreeMap UInt32 SourceRecord compare
  sourceIdByName : Std.ExtTreeMap Bytes UInt32 compare
  modules : Std.ExtTreeMap UInt64 ModuleRecord compare
  moduleUidByKey : Std.ExtTreeMap Bytes UInt64 compare
  ports : Std.ExtTreeMap Bytes PortRecord compare
  attachments : Std.ExtTreeMap Bytes AttachmentRecord compare
  thresholds : List ThresholdRecord
  rules : Std.ExtTreeMap UInt32 CompatRuleRecord compare
  mutations : UInt64
  droppedSamples : UInt64
  conflictsObserved : UInt64

/-- The state of a fresh registry (source `State{}`). -/
def State.initial : State where
  generation := 0
  registryIncarnation := 1
  nextModuleUid := 1
  nextRuleId := 1
  nextSourceId := 1
  nextSequence := 1
  sources := ∅
  sourceIdByName := ∅
  modules := ∅
  moduleUidByKey := ∅
  ports := ∅
  attachments := ∅
  thresholds := []
  rules := ∅
  mutations := 0
  droppedSamples := 0
  conflictsObserved := 0

/-- Reserve a sequence number, never zero (source `next_sequence`). -/
def nextSequence (s : State) : Sequence × State :=
  let next := s.nextSequence + 1
  (s.nextSequence, { s with nextSequence := if next = 0 then 1 else next })

/-- Run a mutation on a copy of the state and publish it as the next generation
(source `RegistryImpl::mutate`). -/
def mutate {α : Type} (requireGeneration : Bool) (expected : Generation)
    (body : State → Generation → Sequence → Result (State × α)) (s : State) :
    Result (State × α) := do
  refuseIf (requireGeneration = true ∧ expected ≠ 0 ∧ expected ≠ s.generation) ⟨.staleGeneration,
    text "the registry moved on: expected generation " ++ decimal expected.toNat ++
      text " but the current generation is " ++ decimal s.generation.toNat⟩
  let nextGeneration := s.generation + 1
  let (sequence, next) := nextSequence s
  let (next, a) ← body next nextGeneration sequence
  .ok ({ next with generation := nextGeneration, mutations := next.mutations + 1 }, a)

/-- What a successful mutation did: its body succeeded on the copy (source
`RegistryImpl::mutate`). -/
lemma mutate_eq_ok {α : Type} {requireGeneration : Bool} {expected : Generation}
    {body : State → Generation → Sequence → Result (State × α)} {s s' : State} {a : α} :
    mutate requireGeneration expected body s = .ok (s', a) ↔
      ¬ (requireGeneration = true ∧ expected ≠ 0 ∧ expected ≠ s.generation) ∧
      ∃ next, body (nextSequence s).2 (s.generation + 1) (nextSequence s).1 = .ok (next, a) ∧
        s' = { next with generation := s.generation + 1, mutations := next.mutations + 1 } := by
  unfold mutate
  rw [refuseIf_bind_eq_ok]
  refine and_congr_right fun _ => ?_
  simp only [bind_eq_ok]
  constructor
  · rintro ⟨⟨next, b⟩, h, e⟩
    cases e
    exact ⟨next, h, rfl⟩
  · rintro ⟨next, h, rfl⟩
    exact ⟨(next, a), h, rfl⟩

/-- A mutation whose fence holds fails as its body does (source `RegistryImpl::mutate`). -/
lemma mutate_eq_error {α : Type} {requireGeneration : Bool} {expected : Generation}
    {body : State → Generation → Sequence → Result (State × α)} {s : State} {e : Error}
    (current : ¬ (requireGeneration = true ∧ expected ≠ 0 ∧ expected ≠ s.generation)) :
    mutate requireGeneration expected body s = .error e ↔
      body (nextSequence s).2 (s.generation + 1) (nextSequence s).1 = .error e := by
  unfold mutate
  rw [refuseIf_of_not current, ok_bind]
  simp only [bind_eq_error]
  refine or_iff_left ?_
  rintro ⟨⟨next, a⟩, _, h⟩
  cases h

/-- The authority token names a registered source and its current epoch
(source `require_authority`). -/
def requireAuthority (s : State) (authority : AuthorityToken) : Result Unit := do
  refuseIf (authority.source = 0)
    (makeError .invalidArgument "an authority token with a source id is required")
  let record ← orRefuse s.sources[authority.source]?
    (makeError .staleAuthority "the authority token names a source that is not registered")
  refuseIf (record.epoch ≠ authority.epoch) (makeError .staleAuthority
    "the authority token belongs to a retired source incarnation; re-register the source")

/-- The source has this epoch now (source `source_is_live`). -/
def sourceIsLive (s : State) (source : SourceId) (epoch : SourceEpoch) : Bool :=
  match s.sources[source]? with
  | some record => record.epoch = epoch
  | none => false

/-- An accepted authority is live (source `require_authority`). -/
lemma requireAuthority_eq_ok {s : State} {authority : AuthorityToken} {u : Unit} :
    requireAuthority s authority = .ok u ↔
      authority.source ≠ 0 ∧ sourceIsLive s authority.source authority.epoch = true := by
  unfold requireAuthority sourceIsLive
  rw [refuseIf_bind_eq_ok, orRefuse_bind_eq_ok]
  refine and_congr_right fun _ => ?_
  cases s.sources[authority.source]? <;> simp

/-- The handle names the incarnation the record is at (source `incarnation_is_current`). -/
def incarnationIsCurrent (record : ModuleRecord) (incarnation : IncarnationId) : Bool :=
  record.incarnation = incarnation

/-- The thresholds in force (source `live_thresholds`). -/
def liveThresholds (s : State) : List HealthThreshold :=
  (s.thresholds.filter (·.live)).map (·.threshold)

end TransceiverRegistry

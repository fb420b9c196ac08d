import TransceiverRegistry.Registry.Queries
import TransceiverRegistry.Registry.Slots
import TransceiverRegistry.Snapshot.File

/-!
# Inspection

Port of the queries of `registry.cpp` that show what is recorded: `Registry::stats`,
`Registry::lifecycle_state`, `Registry::lifecycle_history`, `Registry::claim_history`,
`Registry::declaration_history`, `Registry::samples`, `Registry::health` and
`Registry::evidence_summary`. The counters of queries and refusals are handed in.
-/

namespace TransceiverRegistry

open Lib

/-- What a registry holds (source `RegistryStats`). -/
structure RegistryStats where
  generation : Generation
  registryIncarnation : UInt32
  sources : UInt64
  modules : UInt64
  incarnations : UInt64
  fencedIncarnations : UInt64
  ports : UInt64
  rules : UInt64
  thresholds : UInt64
  attachments : UInt64
  liveAttachments : UInt64
  claims : UInt64
  declarations : UInt64
  samples : UInt64
  mutations : UInt64
  refusals : UInt64
  queries : UInt64
  conflictsObserved : UInt64
  stateDigest : Digest

/-- How much evidence is held about a module (source `EvidenceSummary`). -/
structure EvidenceSummary where
  uid : ModuleUid
  incarnation : IncarnationId
  generation : Generation
  liveClaims : UInt64
  supersededClaims : UInt64
  liveDeclarations : UInt64
  supersededDeclarations : UInt64
  liveSamples : UInt64
  staleSamples : UInt64
  fencedSamples : UInt64
  conflictingAttributes : UInt32
  oldestSampleWallNs : WallNs
  newestSampleWallNs : WallNs
  digest : Digest

/-- Which claims to list (source `ClaimQuery`). -/
structure ClaimQuery where
  field : IdentityField := .unknown
  limit : UInt64 := 64
  includeSuperseded : Bool := false

/-- Which declarations to list (source `DeclarationQuery`). -/
structure DeclarationQuery where
  key : CapabilityKey := .unknown
  limit : UInt64 := 64
  includeSuperseded : Bool := false

/-- Which samples to list (source `SampleQuery`). -/
structure SampleQuery where
  metric : HealthMetric := .unknown
  lane : UInt16 := kModuleLane
  allLanes : Bool := true
  limit : UInt64 := 64
  includeSuperseded : Bool := false

/-- The record of a module, whatever its incarnation (source the lookup of the history queries). -/
def recordOf (s : State) (uid : ModuleUid) : Result ModuleRecord :=
  orRefuse s.modules[uid]? (makeError .notFound "no such module")

/-- Where a module stands (source `Registry::lifecycle_state`). -/
def lifecycleState (s : State) (module : ModuleHandle) : Result LifecycleState := do
  let record ← queriedModule s module.uid module.incarnation
    "the referenced module incarnation was replaced"
  .ok record.state

/-- The events of an incarnation (source `Registry::lifecycle_history`). -/
def lifecycleHistory (s : State) (module : ModuleHandle) : Result (List LifecycleEvent) := do
  let record ← recordOf s module.uid
  .ok (record.lifecycle.filter (·.incarnation = module.incarnation))

/-- The last elements of a list (source `out.erase(out.begin(), out.end() - limit)`). -/
def lastOf {α : Type} (limit : UInt64) (l : List α) : List α := l.drop (l.length - limit.toNat)

/-- The claims about an incarnation, the oldest first (source `Registry::claim_history`). -/
def claimHistory [StdSort] (s : State) (module : ModuleHandle) (query : ClaimQuery) :
    Result (List IdentityClaim) := do
  let record ← recordOf s module.uid
  let listed := (liveClaims s record module.incarnation).filter fun claim =>
    (query.field = .unknown ∨ claim.field = query.field) ∧
      (query.includeSuperseded = true ∨ claim.live = true)
  .ok (lastOf query.limit (StdSort.sort (fun lhs rhs => lhs.sequence < rhs.sequence) listed))

/-- The declarations about an incarnation, the oldest first
(source `Registry::declaration_history`). -/
def declarationHistory [StdSort] (s : State) (module : ModuleHandle) (query : DeclarationQuery) :
    Result (List CapabilityDeclaration) := do
  let record ← recordOf s module.uid
  let listed := (liveDeclarations s record module.incarnation).filter fun declaration =>
    (query.key = .unknown ∨ declaration.key = query.key) ∧
      (query.includeSuperseded = true ∨ declaration.live = true)
  .ok (lastOf query.limit (StdSort.sort (fun lhs rhs => lhs.sequence < rhs.sequence) listed))

/-- The samples about an incarnation, each marked live or not (source `live_samples`). -/
def liveSamples (s : State) (record : ModuleRecord) (incarnation : IncarnationId) :
    List HealthSample :=
  (record.samples.filter (·.incarnation = incarnation)).map fun sample =>
    { sample with live := sourceIsLive s sample.source sample.sourceEpoch }

/-- The samples about an incarnation, the newest first (source `Registry::samples`). -/
def samples [StdSort] (s : State) (module : ModuleHandle) (query : SampleQuery) :
    Result (List HealthSample) := do
  let record ← recordOf s module.uid
  let listed := (liveSamples s record module.incarnation).filter fun sample =>
    (query.metric = .unknown ∨ sample.metric = query.metric) ∧
      (query.allLanes = true ∨ sample.lane = query.lane) ∧
      (query.includeSuperseded = true ∨
        sample.live = true ∧ sample.incarnation = module.incarnation)
  let newer (lhs rhs : HealthSample) : Bool :=
    if lhs.observedAtWallNs ≠ rhs.observedAtWallNs then
      rhs.observedAtWallNs < lhs.observedAtWallNs
    else rhs.sequence < lhs.sequence
  .ok ((StdSort.sort newer listed).take query.limit.toNat)

/-- How a module is (source `Registry::health`). -/
def health [StdSort] (config : RegistryConfig) (clock : Clock) (s : State) (module : ModuleHandle) :
    Result HealthReport := do
  let record ← queriedModule s module.uid module.incarnation
    ("the referenced module incarnation was replaced; its evidence does not describe the " ++
      "replacement")
  .ok (buildHealthReport config (clock.wallNowNs 0) (clock.domain 0) s record)

/-- Count one sample (source `Registry::evidence_summary`, the loop over the samples). Every live
sample takes its own reading of the clock. -/
def EvidenceSummary.addSample (clock : Clock) (s : State) (record : ModuleRecord)
    (summary : EvidenceSummary) (sample : HealthSample) : EvidenceSummary :=
  if sample.incarnation ≠ record.incarnation then
    { summary with fencedSamples := summary.fencedSamples + 1 }
  else if sourceIsLive s sample.source sample.sourceEpoch = false then
    -- a sample of a retired epoch is counted with the declarations
    { summary with supersededDeclarations := summary.supersededDeclarations + 1 }
  else
    let now := clock.wallNowNs summary.liveSamples.toNat
    let age : Int := if sample.observedAtWallNs < now then
        now.toInt - sample.observedAtWallNs.toInt
      else 0
    let stale : Bool := match selectThreshold (liveThresholds s) sample.metric sample.lane with
      | some threshold => threshold.maxAgeNs.toInt < age
      | none => true
    let first := summary.liveSamples = 0
    { summary with
      liveSamples := summary.liveSamples + 1
      staleSamples := if stale then summary.staleSamples + 1 else summary.staleSamples
      oldestSampleWallNs := if first ∨ sample.observedAtWallNs < summary.oldestSampleWallNs then
          sample.observedAtWallNs
        else summary.oldestSampleWallNs
      newestSampleWallNs := if first ∨ summary.newestSampleWallNs < sample.observedAtWallNs then
          sample.observedAtWallNs
        else summary.newestSampleWallNs }

/-- The identity of a summary (source `Registry::evidence_summary`, the writer). -/
def EvidenceSummary.summaryDigest (summary : EvidenceSummary) : Digest :=
  let w := ((CanonicalWriter.new.beginObject 8).field (text "conflicting")).integer
    (Int64.ofNat summary.conflictingAttributes.toNat)
  let w := (w.field (text "fenced_samples")).integer summary.fencedSamples.toInt64
  let w := (w.field (text "incarnation")).integer (Int64.ofNat summary.incarnation.toNat)
  let w := (w.field (text "live_claims")).integer summary.liveClaims.toInt64
  let w := (w.field (text "live_declarations")).integer summary.liveDeclarations.toInt64
  let w := (w.field (text "live_samples")).integer summary.liveSamples.toInt64
  let w := (w.field (text "stale_samples")).integer summary.staleSamples.toInt64
  ((w.field (text "uid")).integer summary.uid.toInt64).digest

/-- How much evidence is held about a module (source `Registry::evidence_summary`). -/
def evidenceSummary (clock : Clock) (s : State) (module : ModuleHandle) :
    Result EvidenceSummary := do
  let record ← queriedModule s module.uid module.incarnation
    "the referenced module incarnation was replaced"
  let claims := liveClaims s record record.incarnation
  let declarations := liveDeclarations s record record.incarnation
  let conflicts := (buildIdentityConsensus claims).countP (·.conflicted) +
    (buildCapabilityConsensus declarations).countP (·.conflicted)
  let summary : EvidenceSummary := {
    uid := record.uid
    incarnation := record.incarnation
    generation := s.generation
    liveClaims := UInt64.ofNat (claims.countP (·.live))
    supersededClaims := UInt64.ofNat (claims.countP (!·.live))
    liveDeclarations := UInt64.ofNat (declarations.countP (·.live))
    supersededDeclarations := UInt64.ofNat (declarations.countP (!·.live))
    liveSamples := 0
    staleSamples := 0
    fencedSamples := 0
    conflictingAttributes := UInt32.ofNat conflicts
    oldestSampleWallNs := 0
    newestSampleWallNs := 0
    digest := Digest.zero }
  let summary := record.samples.foldl (EvidenceSummary.addSample clock s record) summary
  .ok { summary with digest := summary.summaryDigest }

/-- What a registry holds, with its counters of refusals and of queries
(source `Registry::stats`). -/
def stats [StdSort] (refusals queries : UInt64) (s : State) : RegistryStats :=
  let records := s.modules.toList.map (·.2)
  let ports := s.ports.toList.map (·.2)
  let total (size : ModuleRecord → Nat) : Nat := (records.map size).sum
  { generation := s.generation
    registryIncarnation := s.registryIncarnation
    sources := UInt64.ofNat s.sources.size
    modules := UInt64.ofNat s.modules.size
    incarnations := UInt64.ofNat (total (·.incarnationCount.toNat))
    fencedIncarnations := UInt64.ofNat (records.countP fun record => 1 < record.incarnationCount)
    ports := UInt64.ofNat s.ports.size
    rules := UInt64.ofNat s.rules.size
    thresholds := UInt64.ofNat (s.thresholds.countP (·.live))
    attachments := UInt64.ofNat s.attachments.size
    liveAttachments := UInt64.ofNat (liveAttachments s)
    claims := UInt64.ofNat (total (·.claims.length))
    declarations := UInt64.ofNat
      (total (·.declarations.length) + (ports.map (·.declarations.length)).sum)
    samples := UInt64.ofNat (total (·.samples.length))
    mutations := s.mutations
    refusals
    queries
    conflictsObserved := s.conflictsObserved
    stateDigest := sha256 (encodeStateRecords s true) }

end TransceiverRegistry

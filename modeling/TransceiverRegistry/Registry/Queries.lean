import TransceiverRegistry.Compat.Decision
import TransceiverRegistry.Model.Views
import TransceiverRegistry.Registry.Liveness

/-!
# Queries

Port of the queries of `registry.cpp` that answer from live evidence: `Registry::identity`,
`Registry::capabilities`, `Registry::port_capabilities` and `Registry::query_compatibility`. The
counter of the queries is not modelled.
-/

namespace TransceiverRegistry

open Lib

/-- The answer about the identity of a module incarnation (source `IdentityView`). -/
structure IdentityView where
  uid : ModuleUid
  incarnation : IncarnationId
  key : ModuleKey
  generation : Generation
  lifecycle : LifecycleState
  fields : List FieldConsensus
  digest : Digest
  conflictingFields : UInt32
  supersededFields : UInt32

/-- The answer about the capabilities of one subject (source `CapabilityView`). -/
structure CapabilityView where
  moduleSubject : Bool
  uid : ModuleUid
  incarnation : IncarnationId
  port : PortKey
  generation : Generation
  attributes : List CapabilityConsensus
  digest : Digest
  conflictingAttributes : UInt32
  unestablishedAttributes : UInt32

/-- The live claims of the field disagree (source `FieldConsensus::conflicted`). -/
def FieldConsensus.conflicted (consensus : FieldConsensus) : Bool :=
  consensus.outcome = .conflicting

/-- The live declarations of the attribute disagree (source `CapabilityConsensus::conflicted`). -/
def CapabilityConsensus.conflicted (consensus : CapabilityConsensus) : Bool :=
  consensus.outcome = .conflicting

/-- The first entry of a field (source `IdentityView::find`). -/
def IdentityView.find (view : IdentityView) (field : IdentityField) (subkey : Bytes) :
    Option FieldConsensus :=
  view.fields.find? fun consensus => consensus.field = field ∧ consensus.subkey = subkey

/-- The first entry of an attribute (source `CapabilityView::find`). -/
def CapabilityView.find (view : CapabilityView) (key : CapabilityKey) (subkey : Bytes) :
    Option CapabilityConsensus :=
  view.attributes.find? fun consensus => consensus.key = key ∧ consensus.subkey = subkey

/-- Write one entry for the digest of a view (source `digest_identity_fields` and
`digest_capability_attributes`, the loops). -/
def writeEntry (name : String) (w : CanonicalWriter) (digest : Digest) (number : Nat)
    (outcome : ConsensusOutcome) (subkey : Bytes) : CanonicalWriter :=
  let w := ((w.beginObject 4).field (text "digest")).binary digest.bytes.toList
  let w := (w.field (text name)).integer (Int64.ofNat number)
  let w := (w.field (text "outcome")).integer (Int64.ofNat (code outcome))
  (w.field (text "subkey")).text subkey

/-- The identity of the fields of a module (source `digest_identity_fields`). -/
def digestIdentityFields (fields : List FieldConsensus) : Digest :=
  (fields.foldl (fun w consensus => writeEntry "field" w consensus.digest (code consensus.field)
    consensus.outcome consensus.subkey) (CanonicalWriter.new.beginArray fields.length)).digest

/-- The identity of the attributes of a subject (source `digest_capability_attributes`). -/
def digestCapabilityAttributes (attributes : List CapabilityConsensus) : Digest :=
  (attributes.foldl (fun w consensus => writeEntry "key" w consensus.digest (code consensus.key)
    consensus.outcome consensus.subkey) (CanonicalWriter.new.beginArray attributes.length)).digest

/-- The record of a module that is at the incarnation a query names (source the first checks of
`Registry::identity`, `Registry::capabilities` and `Registry::query_compatibility`). -/
def queriedModule (s : State) (uid : ModuleUid) (incarnation : IncarnationId) (replaced : String) :
    Result ModuleRecord := do
  let record ← orRefuse s.modules[uid]? (makeError .notFound "no such module")
  refuseIf (incarnationIsCurrent record incarnation = false) (makeError .fenced replaced)
  .ok record

/-- Who a module is (source `Registry::identity`). -/
def identity (s : State) (module : ModuleHandle) : Result IdentityView := do
  let record ← queriedModule s module.uid module.incarnation
    "the referenced module incarnation was replaced; query the current incarnation or inspect history"
  let fields := buildIdentityConsensus (liveClaims s record record.incarnation)
  .ok {
    uid := record.uid, incarnation := record.incarnation, key := record.key
    generation := s.generation, lifecycle := record.state, fields
    digest := digestIdentityFields fields
    conflictingFields := UInt32.ofNat (fields.countP (·.conflicted))
    supersededFields := UInt32.ofNat (fields.countP fun consensus =>
      !consensus.supersededClaims.isEmpty) }

/-- The view of a subject from its attributes (source the last lines of `Registry::capabilities` and
`Registry::port_capabilities`). -/
def viewOf (moduleSubject : Bool) (uid : ModuleUid) (incarnation : IncarnationId) (port : PortKey)
    (generation : Generation) (attributes : List CapabilityConsensus) : CapabilityView where
  moduleSubject
  uid
  incarnation
  port
  generation
  attributes
  digest := digestCapabilityAttributes attributes
  conflictingAttributes := UInt32.ofNat (attributes.countP (·.conflicted))
  unestablishedAttributes := UInt32.ofNat (attributes.countP fun consensus =>
    !consensus.established)

/-- What a module can do (source `Registry::capabilities`). -/
def capabilities (s : State) (module : ModuleHandle) : Result CapabilityView := do
  let record ← queriedModule s module.uid module.incarnation
    "the referenced module incarnation was replaced; query the current incarnation or inspect history"
  .ok (viewOf true record.uid record.incarnation TextKey.none s.generation
    (buildCapabilityConsensus (liveDeclarations s record record.incarnation)))

/-- The declarations about a port, each marked live or not (source `live_port_declarations`). -/
def livePortDeclarations (s : State) (record : PortRecord) : List CapabilityDeclaration :=
  record.declarations.map fun declaration =>
    { declaration with live := sourceIsLive s declaration.source declaration.sourceEpoch &&
        !declarationShadowed record.declarations declaration }

/-- What a port can do (source `Registry::port_capabilities`). -/
def portCapabilities (s : State) (port : PortKey) : Result CapabilityView := do
  let record ← orRefuse s.ports[port.str]? (makeError .notFound "no such port")
  .ok (viewOf false 0 0 port s.generation
    (buildCapabilityConsensus (livePortDeclarations s record)))

/-- The attributes of a subject of a compatibility query (source `Registry::query_compatibility`,
`module_attributes` and `port_attributes`). -/
def subjectAttributes (s : State) (record : ModuleRecord) (port : PortKey) :
    RequirementSubject → List CapabilityConsensus
  | .module => buildCapabilityConsensus (liveDeclarations s record record.incarnation)
  | .port => (s.ports[port.str]?.map fun record =>
      buildCapabilityConsensus (livePortDeclarations s record)).getD []

/-- Looks an attribute up among those of its subject (source `Registry::query_compatibility`,
`resolver`). -/
def queryResolver (s : State) (record : ModuleRecord) (port : PortKey) : AttributeResolver :=
  some fun subject key subkey => (subjectAttributes s record port subject).find? fun consensus =>
    consensus.key = key ∧ consensus.subkey = subkey

/-- The rules in force, in the order of their ids (source `Registry::query_compatibility`,
`live`). -/
def liveRules (s : State) : List CompatRuleRecord :=
  (s.rules.toList.map (·.2)).filter (·.live)

/-- Whether a module may run in a port (source `Registry::query_compatibility`). -/
def queryCompatibility [StdSort] (now : WallNs) (domain : ClockDomainId) (s : State)
    (query : CompatQuery) : Result CompatDecision := do
  refuseIf (query.uid = 0 ∨ query.incarnation = 0)
    (makeError .invalidArgument "a compatibility query must name a module incarnation")
  refuseIf (query.port.str = [])
    (makeError .invalidArgument "a compatibility query must name a host port")
  refuseIf (query.requireLatestGeneration = true ∧ query.expectedGeneration ≠ 0 ∧
      query.expectedGeneration ≠ s.generation) ⟨.staleGeneration,
    text "the compatibility query was fenced against generation " ++
      decimal query.expectedGeneration.toNat ++ text " but the registry is at generation " ++
      decimal s.generation.toNat⟩
  let record ← queriedModule s query.uid query.incarnation
    "the referenced module incarnation was replaced; its capabilities do not describe the replacement"
  .ok (evaluateCompatibility query (liveRules s) (queryResolver s record query.port) s.generation
    now domain)

end TransceiverRegistry

import TransceiverRegistry.Canonical.Value
import TransceiverRegistry.Core.Digest
import TransceiverRegistry.Core.Taxonomy

/-!
# Provenance and identity

Port of the records of `provenance.hpp` and `identity.hpp` that the registry stores, and of their
validation in `registry.cpp`.
-/

namespace TransceiverRegistry

open Lib

/-- How a piece of evidence was obtained (source `Provenance`). -/
structure Provenance where
  kind : EvidenceKind
  origin : Bytes
  method : Bytes
  contentDigest : Digest
  captureRef : Bytes
deriving DecidableEq

/-- Accept evidence that says where it comes from (source `validate_provenance`). -/
def validateProvenance (provenance : Provenance) : Result Unit := do
  refuseIf (provenance.kind = .unsupported) (makeError .invalidArgument
    "evidence must declare how it was obtained: real or synthetic provenance is required")
  refuseIf (provenance.origin = [])
    (makeError .invalidArgument "evidence provenance must name an origin")
  refuseIf (128 < provenance.origin.length ∨ 128 < provenance.method.length ∨
      256 < provenance.captureRef.length)
    (makeError .invalidArgument "evidence provenance text is too long")
  refuseIf (isValidUtf8 provenance.origin = false ∨ isValidUtf8 provenance.method = false)
    (makeError .invalidArgument "evidence provenance must be valid UTF-8")

/-- What an accepted provenance satisfies (source `validate_provenance`). -/
structure Provenance.Valid (provenance : Provenance) : Prop where
  kind : provenance.kind ≠ .unsupported
  named : provenance.origin ≠ []
  origin : provenance.origin.length ≤ 128
  method : provenance.method.length ≤ 128
  captureRef : provenance.captureRef.length ≤ 256
  originUtf8 : isValidUtf8 provenance.origin = true
  methodUtf8 : isValidUtf8 provenance.method = true

/-- The provenance validation accepts the valid provenances (source `validate_provenance`). -/
lemma validateProvenance_eq_ok {provenance : Provenance} {u : Unit} :
    validateProvenance provenance = .ok u ↔ provenance.Valid := by
  simp only [validateProvenance, refuseIf_bind_eq_ok, refuseIf_eq_ok, not_or, Nat.not_lt,
    Bool.not_eq_false]
  exact ⟨fun ⟨h1, h2, ⟨h3, h4, h5⟩, h6, h7⟩ => ⟨h1, h2, h3, h4, h5, h6, h7⟩,
    fun ⟨h1, h2, h3, h4, h5, h6, h7⟩ => ⟨h1, h2, ⟨h3, h4, h5⟩, h6, h7⟩⟩

/-- What a source says about itself (source `SourceDescriptor`). -/
structure SourceDescriptor where
  name : Bytes
  description : Bytes
  declaredKind : EvidenceKind
  instanceId : Bytes
deriving DecidableEq

/-- Names the source incarnation a mutation acts for (source `AuthorityToken`). -/
structure AuthorityToken where
  source : SourceId
  epoch : SourceEpoch
deriving DecidableEq

/-- A registered source (source `SourceHandle`). -/
structure SourceHandle where
  id : SourceId
  epoch : SourceEpoch
  generation : Generation
deriving DecidableEq

/-- A module incarnation and the generation it was seen at (source `ModuleHandle`). -/
structure ModuleHandle where
  uid : ModuleUid
  incarnation : IncarnationId
  generation : Generation
  key : ModuleKey
deriving DecidableEq

/-- A statement about one identity field (source `IdentityFieldValue`). -/
structure IdentityFieldValue where
  field : IdentityField
  subkey : Bytes
  value : Bytes
deriving DecidableEq

/-- A recorded statement about one identity field (source `IdentityClaim`). -/
structure IdentityClaim where
  field : IdentityField
  subkey : Bytes
  value : Bytes
  source : SourceId
  sourceEpoch : SourceEpoch
  module : ModuleUid
  incarnation : IncarnationId
  generation : Generation
  sequence : Sequence
  observedAtWallNs : WallNs
  clockDomain : ClockDomainId
  provenance : Provenance
  live : Bool
deriving DecidableEq

/-- Longest accepted identity value (source `kMaxIdentityValueBytes`). -/
def kMaxIdentityValueBytes : Nat := 256

/-- Accept a statement about one identity field (source `validate_identity_value`). -/
def validateIdentityValue (value : IdentityFieldValue) : Result Unit := do
  refuseIf (value.field = .unknown)
    (makeError .invalidArgument "identity field must be named")
  refuseIf (value.value = [])
    (makeError .invalidArgument "identity value must not be empty")
  refuseIf (kMaxIdentityValueBytes < value.value.length)
    (makeError .invalidArgument "identity value is too long")
  refuseIf (isValidUtf8 value.value = false ∨ isValidUtf8 value.subkey = false)
    (makeError .invalidArgument "identity value must be valid UTF-8")
  refuseIf (value.field = .vendorSpecific ∧ value.subkey = [])
    (makeError .invalidArgument "vendor specific identity fields require a subkey")
  refuseIf (value.field ≠ .vendorSpecific ∧ value.subkey ≠ [])
    (makeError .invalidArgument "only vendor specific identity fields may carry a subkey")
  refuseIf (128 < value.subkey.length)
    (makeError .invalidArgument "identity subkey is too long")

/-- What an accepted identity statement satisfies (source `validate_identity_value`). -/
structure IdentityFieldValue.Valid (value : IdentityFieldValue) : Prop where
  field : value.field ≠ .unknown
  value_ne : value.value ≠ []
  value_length : value.value.length ≤ kMaxIdentityValueBytes
  value_utf8 : isValidUtf8 value.value = true
  subkey_utf8 : isValidUtf8 value.subkey = true
  subkey_iff : value.subkey ≠ [] ↔ value.field = .vendorSpecific
  subkey_length : value.subkey.length ≤ 128

/-- The identity validation accepts the valid statements (source `validate_identity_value`). -/
lemma validateIdentityValue_eq_ok {value : IdentityFieldValue} {u : Unit} :
    validateIdentityValue value = .ok u ↔ value.Valid := by
  simp only [validateIdentityValue, refuseIf_bind_eq_ok, refuseIf_eq_ok, not_or, not_and,
    Nat.not_lt, Bool.not_eq_false]
  constructor
  · rintro ⟨h1, h2, h3, ⟨h4, h5⟩, h6, h7, h8⟩
    refine ⟨h1, h2, h3, h4, h5, ⟨fun h => ?_, h6⟩, h8⟩
    by_contra other
    exact h7 other h
  · rintro ⟨h1, h2, h3, h4, h5, h6, h7⟩
    exact ⟨h1, h2, h3, ⟨h4, h5⟩, h6.2, fun other h => other (h6.1 h), h7⟩

end TransceiverRegistry

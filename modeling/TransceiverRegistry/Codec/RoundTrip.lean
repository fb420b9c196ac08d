import TransceiverRegistry.Codec.Decision
import TransceiverRegistry.Codec.Handles
import TransceiverRegistry.Codec.Health
import TransceiverRegistry.Codec.Lifecycle
import TransceiverRegistry.Codec.Reports

/-!
# The round trip of every record

The records that `codec.cpp` has a codec for, as one family. Each of them is read back from what was
written exactly when its numbers survive the way there: counters stay below `2 ^ 63`, measurements
are finite, and capability values are in the range that their reader accepts.
-/

namespace TransceiverRegistry

open Lib

/-- The types that have a codec (source the specializations of `Codec`). -/
inductive RecordType where
  | provenance | sourceDescriptor | sourceHandle | moduleHandle | authorityToken
  | identityFieldValue | identityClaim | fieldConsensus | identityView | moduleRegistration
  | spectrumDescriptor | capabilityValue | capabilityDeclaration | capabilityConsensus
  | capabilityView | healthSampleInput | healthSample | healthThreshold | healthLatch
  | metricHealth | healthIssue | healthReport | evidenceSummary | attachmentRecord
  | lifecycleEvent | requirement | requirementEvaluation | matchedRule | compatRule
  | compatRuleRecord | compatDecision | registryStats | loadReport

namespace RecordType

/-- The records of a type. -/
def Record : RecordType → Type
  | provenance => Provenance
  | sourceDescriptor => SourceDescriptor
  | sourceHandle => SourceHandle
  | moduleHandle => ModuleHandle
  | authorityToken => AuthorityToken
  | identityFieldValue => IdentityFieldValue
  | identityClaim => IdentityClaim
  | fieldConsensus => FieldConsensus
  | identityView => IdentityView
  | moduleRegistration => ModuleRegistration
  | spectrumDescriptor => SpectrumDescriptor
  | capabilityValue => CapabilityValue
  | capabilityDeclaration => CapabilityDeclaration
  | capabilityConsensus => CapabilityConsensus
  | capabilityView => CapabilityView
  | healthSampleInput => HealthSampleInput
  | healthSample => HealthSample
  | healthThreshold => HealthThreshold
  | healthLatch => HealthLatch
  | metricHealth => MetricHealthRow
  | healthIssue => HealthIssue
  | healthReport => SentHealthReport
  | evidenceSummary => EvidenceSummary
  | attachmentRecord => AttachmentRecord
  | lifecycleEvent => LifecycleEvent
  | requirement => Requirement
  | requirementEvaluation => RequirementEvaluation
  | matchedRule => MatchedRule
  | compatRule => CompatRule
  | compatRuleRecord => CompatRuleRecord
  | compatDecision => ExplainedDecision
  | registryStats => RegistryStats
  | loadReport => LoadReport

/-- The codec of a type (source `Codec`). -/
instance codec [StdSort] : (type : RecordType) → Codec type.Record
  | provenance => inferInstanceAs (Codec Provenance)
  | sourceDescriptor => inferInstanceAs (Codec SourceDescriptor)
  | sourceHandle => inferInstanceAs (Codec SourceHandle)
  | moduleHandle => inferInstanceAs (Codec ModuleHandle)
  | authorityToken => inferInstanceAs (Codec AuthorityToken)
  | identityFieldValue => inferInstanceAs (Codec IdentityFieldValue)
  | identityClaim => inferInstanceAs (Codec IdentityClaim)
  | fieldConsensus => inferInstanceAs (Codec FieldConsensus)
  | identityView => inferInstanceAs (Codec IdentityView)
  | moduleRegistration => inferInstanceAs (Codec ModuleRegistration)
  | spectrumDescriptor => inferInstanceAs (Codec SpectrumDescriptor)
  | capabilityValue => inferInstanceAs (Codec CapabilityValue)
  | capabilityDeclaration => inferInstanceAs (Codec CapabilityDeclaration)
  | capabilityConsensus => inferInstanceAs (Codec CapabilityConsensus)
  | capabilityView => inferInstanceAs (Codec CapabilityView)
  | healthSampleInput => inferInstanceAs (Codec HealthSampleInput)
  | healthSample => inferInstanceAs (Codec HealthSample)
  | healthThreshold => inferInstanceAs (Codec HealthThreshold)
  | healthLatch => inferInstanceAs (Codec HealthLatch)
  | metricHealth => inferInstanceAs (Codec MetricHealthRow)
  | healthIssue => inferInstanceAs (Codec HealthIssue)
  | healthReport => inferInstanceAs (Codec SentHealthReport)
  | evidenceSummary => inferInstanceAs (Codec EvidenceSummary)
  | attachmentRecord => inferInstanceAs (Codec AttachmentRecord)
  | lifecycleEvent => inferInstanceAs (Codec LifecycleEvent)
  | requirement => inferInstanceAs (Codec Requirement)
  | requirementEvaluation => inferInstanceAs (Codec RequirementEvaluation)
  | matchedRule => inferInstanceAs (Codec MatchedRule)
  | compatRule => inferInstanceAs (Codec CompatRule)
  | compatRuleRecord => inferInstanceAs (Codec CompatRuleRecord)
  | compatDecision => inferInstanceAs (Codec ExplainedDecision)
  | registryStats => inferInstanceAs (Codec RegistryStats)
  | loadReport => inferInstanceAs (Codec LoadReport)

/-- The numbers of a record, and of the records in it, are written and read as they are. -/
def Readable : (type : RecordType) → type.Record → Prop
  | provenance, _ => True
  | sourceDescriptor, _ => True
  | sourceHandle, handle => SourceHandle.Readable handle
  | moduleHandle, handle => ModuleHandle.Readable handle
  | authorityToken, _ => True
  | identityFieldValue, _ => True
  | identityClaim, claim => IdentityClaim.CountersFit claim
  | fieldConsensus, consensus => FieldConsensus.Readable consensus
  | identityView, view => IdentityView.Readable view
  | moduleRegistration, registration => ModuleRegistration.Readable registration
  | spectrumDescriptor, wavelength => SpectrumDescriptor.Finite wavelength
  | capabilityValue, value => CapabilityValue.Readable value
  | capabilityDeclaration, declaration => CapabilityDeclaration.Readable declaration
  | capabilityConsensus, consensus => CapabilityConsensus.Readable consensus
  | capabilityView, view => CapabilityView.Readable view
  | healthSampleInput, sample => HealthSampleInput.Readable sample
  | healthSample, sample => HealthSample.Readable sample
  | healthThreshold, threshold => HealthThreshold.Readable threshold
  | healthLatch, latch => HealthLatch.CountersFit latch
  | metricHealth, row => MetricHealthRow.Readable row
  | healthIssue, _ => True
  | healthReport, report => SentHealthReport.Readable report
  | evidenceSummary, summary => EvidenceSummary.Readable summary
  | attachmentRecord, attachment => AttachmentRecord.CountersFit attachment
  | lifecycleEvent, event => LifecycleEvent.CountersFit event
  | requirement, condition => CapabilityValue.Readable (Requirement.operand condition)
  | requirementEvaluation, evaluation => RequirementEvaluation.Readable evaluation
  | matchedRule, rule => MatchedRule.Readable rule
  | compatRule, rule => CompatRule.Readable rule
  | compatRuleRecord, rule => CompatRuleRecord.Readable rule
  | compatDecision, decision => ExplainedDecision.Readable decision
  | registryStats, stats => RegistryStats.Readable stats
  | loadReport, report => LoadReport.Readable report

end RecordType

/-- A record of any type is read back from its encoding exactly when its numbers are readable, and
nothing else is ever read from it (source `codec.cpp`). -/
theorem record_round_trip [StdSort] (type : RecordType) (record read : type.Record) :
    decode (encode record) = .ok read ↔ type.Readable record ∧ read = record := by
  cases type with
  | provenance => exact LawfulCodec.decode_encode (α := Provenance)
  | sourceDescriptor => exact LawfulCodec.decode_encode (α := SourceDescriptor)
  | sourceHandle => exact SourceHandle.decode_encode
  | moduleHandle => exact ModuleHandle.decode_encode
  | authorityToken => exact AuthorityToken.decode_encode.trans (true_and _).symm.to_iff
  | identityFieldValue => exact IdentityFieldValue.decode_encode.trans (true_and _).symm.to_iff
  | identityClaim => exact IdentityClaim.decode_encode
  | fieldConsensus => exact FieldConsensus.decode_encode
  | identityView => exact IdentityView.decode_encode
  | moduleRegistration => exact ModuleRegistration.decode_encode
  | spectrumDescriptor => exact SpectrumDescriptor.decode_encode
  | capabilityValue => exact CapabilityValue.decode_encode
  | capabilityDeclaration => exact CapabilityDeclaration.decode_encode
  | capabilityConsensus => exact CapabilityConsensus.decode_encode
  | capabilityView => exact CapabilityView.decode_encode
  | healthSampleInput => exact HealthSampleInput.decode_encode
  | healthSample => exact HealthSample.decode_encode
  | healthThreshold => exact HealthThreshold.decode_encode
  | healthLatch => exact HealthLatch.decode_encode
  | metricHealth => exact MetricHealthRow.decode_encode
  | healthIssue => exact HealthIssue.decode_encode.trans (true_and _).symm.to_iff
  | healthReport => exact SentHealthReport.decode_encode
  | evidenceSummary => exact EvidenceSummary.decode_encode
  | attachmentRecord => exact AttachmentRecord.decode_encode
  | lifecycleEvent => exact LifecycleEvent.decode_encode
  | requirement => exact Requirement.decode_encode
  | requirementEvaluation => exact RequirementEvaluation.decode_encode
  | matchedRule => exact MatchedRule.decode_encode
  | compatRule => exact CompatRule.decode_encode
  | compatRuleRecord => exact CompatRuleRecord.decode_encode
  | compatDecision => exact ExplainedDecision.decode_encode
  | registryStats => exact RegistryStats.decode_encode
  | loadReport => exact LoadReport.decode_encode

/-- A lane with a finite wavelength below zero. -/
def negativeWavelength : SpectrumDescriptor where
  lane := 0
  centerNm := .ofInt (-1)
  frequencyThz := .ofInt 0
  grid := .unknown
  channel := []

/-- A declaration of that wavelength. -/
def negativeDeclaration : CapabilityDeclaration :=
  { laneDeclaration 1 5 8 with
    key := .wavelengths, value := .spectrum ⟨[negativeWavelength], by simp⟩ }

/-- The counters of the declaration are small and its numbers are finite, but the reader of its value
refuses what was written (source `read_spectrum_descriptor`). -/
theorem negative_wavelength_refused :
    (negativeDeclaration.module.toNat < 2 ^ 63 ∧ negativeDeclaration.generation.toNat < 2 ^ 63 ∧
      negativeDeclaration.sequence.toNat < 2 ^ 63 ∧ negativeWavelength.Finite) ∧
    ∀ read : CapabilityDeclaration, decode (encode negativeDeclaration) ≠ .ok read := by
  refine ⟨⟨by decide, by decide, by decide, by decide +kernel, by decide +kernel⟩, ?_⟩
  intro read accepted
  obtain ⟨readable, _⟩ := CapabilityDeclaration.decode_encode.1 accepted
  have wavelength := readable.value negativeWavelength (List.mem_singleton_self _)
  have below : negativeWavelength.centerNm.lt (.ofInt 0) = true := by decide +kernel
  rw [wavelength.center_nonneg] at below
  cases below

end TransceiverRegistry

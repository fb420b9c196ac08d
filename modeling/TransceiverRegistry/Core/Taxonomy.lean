import TransceiverRegistry.Core.Base
import TransceiverRegistry.Lib.Binary64

/-!
# Vendor-neutral vocabulary

Port of `taxonomy.hpp` and of the tables of `taxonomy.cpp` that decide something: the value kind a
capability key requires, the plausible range of a metric and the severity of a metric state. Every
enumeration is stored and sent as its number, so it has a `WireEnum` instance.
-/

namespace TransceiverRegistry

open Lib

inductive WavelengthGrid where
  | unknown | none | cwdm4 | lanWdm | dwdm | swdm | unsupported
deriving DecidableEq

inductive HealthMetric where
  | unknown | temperatureCelsius | supplyVoltageVolts | txPowerDbm | rxPowerDbm
  | txBiasCurrentMilliamps | laneSkewPicoseconds | unsupported
deriving DecidableEq

inductive IdentityField where
  | unknown | vendor | partNumber | serialNumber | revision | vendorOui | dateCode
  | firmwareVersion | firmwareBuild | eepromContentDigest | vendorSpecific
deriving DecidableEq

inductive CapabilityKey where
  | unknown | moduleFamily | mediaClass | connectorClass | laneCount | speedClasses | encodings
  | fecModes | wavelengths | wavelengthGrid | wavelengthTunable | reachClass | powerClass
  | maxPowerMilliWatts | operatingTemperatureMinCelsius | operatingTemperatureMaxCelsius
  | temperatureTelemetry | voltageTelemetry | txPowerTelemetry | rxPowerTelemetry
  | biasCurrentTelemetry | laneSkewTelemetry | digitalDiagnosticMonitoring | vendorSpecific
  | unsupported
deriving DecidableEq

inductive CapabilityValueKind where
  | none | boolean | count | real | enum | enumSet | text | textSet | spectrum
deriving DecidableEq

inductive RequirementSubject where
  | module | port
deriving DecidableEq

inductive RequirementOp where
  | unknown | equals | notEquals | in_ | notIn | supersetOf | subsetOf | overlaps | disjointFrom
  | atMost | atLeast
deriving DecidableEq

inductive CompatVerdict where
  | unknown | compatible | incompatible | unsupported
deriving DecidableEq

inductive ConsensusOutcome where
  | unknown | singleSource | agreed | conflicting | superseded
deriving DecidableEq

inductive MetricState where
  | unknown | ok | degraded | critical | stale | conflicting | unclassified | fenced
deriving DecidableEq

inductive HealthOutcome where
  | unknown | fresh | partial_ | stale | conflicting | fenced
deriving DecidableEq

inductive SamplePresence where
  | present | notAvailable | readError | notSupported
deriving DecidableEq

inductive EvidenceKind where
  | real | synthetic | unsupported
deriving DecidableEq

inductive LifecycleState where
  | discovered | registered | attached | active | degraded | quarantined | removed | retired
  | replaced
deriving DecidableEq

inductive MutationPolicy where
  | requireGeneration | autoRetry
deriving DecidableEq

inductive ThresholdDirection where
  | above | below
deriving DecidableEq

/-- An enumeration with the numbers `0` to `last`, as it is stored and sent. -/
class WireEnum (α : Type) where
  code : α → Nat
  last : Nat
  ofCode : Nat → α
  last_lt : last < 256
  code_le (a : α) : code a ≤ last
  ofCode_code (a : α) : ofCode (code a) = a
  code_ofCode (n : Nat) : n ≤ last → code (ofCode n) = n

export WireEnum (code)

instance : WireEnum WavelengthGrid where
  code := WavelengthGrid.ctorIdx
  last := 6
  ofCode := WavelengthGrid.ofNat
  last_lt := by decide
  code_le a := by cases a <;> decide
  ofCode_code := WavelengthGrid.ofNat_ctorIdx
  code_ofCode := by decide

instance : WireEnum HealthMetric where
  code := HealthMetric.ctorIdx
  last := 7
  ofCode := HealthMetric.ofNat
  last_lt := by decide
  code_le a := by cases a <;> decide
  ofCode_code := HealthMetric.ofNat_ctorIdx
  code_ofCode := by decide

instance : WireEnum IdentityField where
  code := IdentityField.ctorIdx
  last := 10
  ofCode := IdentityField.ofNat
  last_lt := by decide
  code_le a := by cases a <;> decide
  ofCode_code := IdentityField.ofNat_ctorIdx
  code_ofCode := by decide

instance : WireEnum CapabilityKey where
  code := CapabilityKey.ctorIdx
  last := 24
  ofCode := CapabilityKey.ofNat
  last_lt := by decide
  code_le a := by cases a <;> decide
  ofCode_code := CapabilityKey.ofNat_ctorIdx
  code_ofCode := by decide

instance : WireEnum RequirementSubject where
  code := RequirementSubject.ctorIdx
  last := 1
  ofCode := RequirementSubject.ofNat
  last_lt := by decide
  code_le a := by cases a <;> decide
  ofCode_code := RequirementSubject.ofNat_ctorIdx
  code_ofCode := by decide

instance : WireEnum RequirementOp where
  code := RequirementOp.ctorIdx
  last := 10
  ofCode := RequirementOp.ofNat
  last_lt := by decide
  code_le a := by cases a <;> decide
  ofCode_code := RequirementOp.ofNat_ctorIdx
  code_ofCode := by decide

instance : WireEnum CompatVerdict where
  code := CompatVerdict.ctorIdx
  last := 3
  ofCode := CompatVerdict.ofNat
  last_lt := by decide
  code_le a := by cases a <;> decide
  ofCode_code := CompatVerdict.ofNat_ctorIdx
  code_ofCode := by decide

instance : WireEnum ConsensusOutcome where
  code := ConsensusOutcome.ctorIdx
  last := 4
  ofCode := ConsensusOutcome.ofNat
  last_lt := by decide
  code_le a := by cases a <;> decide
  ofCode_code := ConsensusOutcome.ofNat_ctorIdx
  code_ofCode := by decide

instance : WireEnum MetricState where
  code := MetricState.ctorIdx
  last := 7
  ofCode := MetricState.ofNat
  last_lt := by decide
  code_le a := by cases a <;> decide
  ofCode_code := MetricState.ofNat_ctorIdx
  code_ofCode := by decide

instance : WireEnum HealthOutcome where
  code := HealthOutcome.ctorIdx
  last := 5
  ofCode := HealthOutcome.ofNat
  last_lt := by decide
  code_le a := by cases a <;> decide
  ofCode_code := HealthOutcome.ofNat_ctorIdx
  code_ofCode := by decide

instance : WireEnum SamplePresence where
  code := SamplePresence.ctorIdx
  last := 3
  ofCode := SamplePresence.ofNat
  last_lt := by decide
  code_le a := by cases a <;> decide
  ofCode_code := SamplePresence.ofNat_ctorIdx
  code_ofCode := by decide

instance : WireEnum EvidenceKind where
  code := EvidenceKind.ctorIdx
  last := 2
  ofCode := EvidenceKind.ofNat
  last_lt := by decide
  code_le a := by cases a <;> decide
  ofCode_code := EvidenceKind.ofNat_ctorIdx
  code_ofCode := by decide

instance : WireEnum LifecycleState where
  code := LifecycleState.ctorIdx
  last := 8
  ofCode := LifecycleState.ofNat
  last_lt := by decide
  code_le a := by cases a <;> decide
  ofCode_code := LifecycleState.ofNat_ctorIdx
  code_ofCode := by decide

instance : WireEnum ThresholdDirection where
  code := ThresholdDirection.ctorIdx
  last := 1
  ofCode := ThresholdDirection.ofNat
  last_lt := by decide
  code_le a := by cases a <;> decide
  ofCode_code := ThresholdDirection.ofNat_ctorIdx
  code_ofCode := by decide

/-- Equal numbers mean equal values. -/
lemma code_injective {α : Type} [WireEnum α] {a b : α} (h : code a = code b) : a = b := by
  rw [← WireEnum.ofCode_code a, h, WireEnum.ofCode_code]

/-- The shape of value a capability key requires (source `capability_value_kind`). -/
def capabilityValueKind : CapabilityKey → CapabilityValueKind
  | .moduleFamily | .mediaClass | .connectorClass | .reachClass | .powerClass
  | .wavelengthGrid => .enum
  | .laneCount => .count
  | .speedClasses | .encodings | .fecModes => .enumSet
  | .wavelengths => .spectrum
  | .wavelengthTunable | .temperatureTelemetry | .voltageTelemetry | .txPowerTelemetry
  | .rxPowerTelemetry | .biasCurrentTelemetry | .laneSkewTelemetry
  | .digitalDiagnosticMonitoring => .boolean
  | .maxPowerMilliWatts | .operatingTemperatureMinCelsius
  | .operatingTemperatureMaxCelsius => .real
  | .vendorSpecific => .text
  | .unknown | .unsupported => .none

/-- The range of measurements a metric can take (source `metric_plausible_range`). -/
def metricPlausibleRange : HealthMetric → Option (Binary64 × Binary64)
  | .temperatureCelsius => some (.ofInt (-40), .ofInt 150)
  | .supplyVoltageVolts => some (.ofInt 0, .ofInt 5)
  | .txPowerDbm => some (.ofInt (-40), .ofInt 20)
  | .rxPowerDbm => some (.ofInt (-40), .ofInt 20)
  | .txBiasCurrentMilliamps => some (.ofInt 0, .ofInt 500)
  | .laneSkewPicoseconds => some (.ofInt 0, .ofInt 10000000)
  | .unknown | .unsupported => none

/-- How bad a metric state is (source `metric_state_severity`). -/
def metricStateSeverity : MetricState → Nat
  | .critical => 5
  | .degraded => 4
  | .conflicting => 3
  | .stale | .fenced => 2
  | .unknown | .unclassified => 1
  | .ok => 0

/-- The canonical name of a lifecycle state (source `to_string(LifecycleState)`). -/
def LifecycleState.toText : LifecycleState → Bytes
  | .discovered => text "discovered"
  | .registered => text "registered"
  | .attached => text "attached"
  | .active => text "active"
  | .degraded => text "degraded"
  | .quarantined => text "quarantined"
  | .removed => text "removed"
  | .retired => text "retired"
  | .replaced => text "replaced"

/-- The canonical name of a capability key (source `to_string(CapabilityKey)`). -/
def CapabilityKey.toText : CapabilityKey → Bytes
  | .unknown => text "unknown"
  | .moduleFamily => text "module_family"
  | .mediaClass => text "media_class"
  | .connectorClass => text "connector_class"
  | .laneCount => text "lane_count"
  | .speedClasses => text "speed_classes"
  | .encodings => text "encodings"
  | .fecModes => text "fec_modes"
  | .wavelengths => text "wavelengths"
  | .wavelengthGrid => text "wavelength_grid"
  | .wavelengthTunable => text "wavelength_tunable"
  | .reachClass => text "reach_class"
  | .powerClass => text "power_class"
  | .maxPowerMilliWatts => text "max_power_milli_watts"
  | .operatingTemperatureMinCelsius => text "operating_temperature_min_celsius"
  | .operatingTemperatureMaxCelsius => text "operating_temperature_max_celsius"
  | .temperatureTelemetry => text "temperature_telemetry"
  | .voltageTelemetry => text "voltage_telemetry"
  | .txPowerTelemetry => text "tx_power_telemetry"
  | .rxPowerTelemetry => text "rx_power_telemetry"
  | .biasCurrentTelemetry => text "bias_current_telemetry"
  | .laneSkewTelemetry => text "lane_skew_telemetry"
  | .digitalDiagnosticMonitoring => text "digital_diagnostic_monitoring"
  | .vendorSpecific => text "vendor_specific"
  | .unsupported => text "unsupported"

end TransceiverRegistry

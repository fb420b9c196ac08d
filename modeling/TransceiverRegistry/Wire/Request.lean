import TransceiverRegistry.Codec.Handles
import TransceiverRegistry.Codec.Reports
import TransceiverRegistry.Codec.Compatibility
import TransceiverRegistry.Registry.Operation

/-!
# Requests

Port of the request readers of `wire.cpp`: the envelope of a request and, for every operation that
mutates the registry, the reader of its parameters. The names are read as `taxonomy.cpp` reads them.
-/

namespace TransceiverRegistry

open Lib

/-- The name of a status code (source `to_string(StatusCode)`). -/
def StatusCode.toText : StatusCode → Bytes
  | .invalidArgument => text "invalid_argument"
  | .notFound => text "not_found"
  | .conflict => text "conflict"
  | .staleAuthority => text "stale_authority"
  | .staleGeneration => text "stale_generation"
  | .staleIncarnation => text "stale_incarnation"
  | .fenced => text "fenced"
  | .capacityExceeded => text "capacity_exceeded"
  | .malformed => text "malformed"
  | .corrupt => text "corrupt"
  | .unsupported => text "unsupported"
  | .refused => text "refused"
  | .ioError => text "io_error"
  | .clockSkew => text "clock_skew"
  | .invalidTransition => text "invalid_transition"
  | .knowledgeOpen => text "knowledge_open"
  | .internal => text "internal"

/-- The canonical name of an identity field (source `to_string(IdentityField)`). -/
def IdentityField.toText : IdentityField → Bytes
  | .unknown => text "unknown"
  | .vendor => text "vendor"
  | .partNumber => text "part_number"
  | .serialNumber => text "serial_number"
  | .revision => text "revision"
  | .vendorOui => text "vendor_oui"
  | .dateCode => text "date_code"
  | .firmwareVersion => text "firmware_version"
  | .firmwareBuild => text "firmware_build"
  | .eepromContentDigest => text "eeprom_content_digest"
  | .vendorSpecific => text "vendor_specific"

/-- The canonical name of a metric (source `to_string(HealthMetric)`). -/
def HealthMetric.toText : HealthMetric → Bytes
  | .unknown => text "unknown"
  | .temperatureCelsius => text "temperature_celsius"
  | .supplyVoltageVolts => text "supply_voltage_volts"
  | .txPowerDbm => text "tx_power_dbm"
  | .rxPowerDbm => text "rx_power_dbm"
  | .txBiasCurrentMilliamps => text "tx_bias_current_milliamps"
  | .laneSkewPicoseconds => text "lane_skew_picoseconds"
  | .unsupported => text "unsupported"

/-- A letter in lower case (source `to_lower_ascii`). -/
def toLowerAscii (value : UInt8) : UInt8 :=
  if 0x41 ≤ value ∧ value ≤ 0x5a then value + 0x20 else value

/-- The value with a name, whatever the case of its letters (source `enum_from_string`). -/
def enumFromString {α : Type} [WireEnum α] (toText : α → Bytes) (t : Bytes) : Option α :=
  ((List.range (WireEnum.last α + 1)).map WireEnum.ofCode).find? fun value =>
    t.map toLowerAscii = (toText value).map toLowerAscii

/-- Read a name (source the calls of the `_from_string` functions in `dispatch`). -/
def readName {α : Type} [WireEnum α] (toText : α → Bytes) (t : Bytes) (refusal : String) :
    Result α :=
  orRefuse (enumFromString toText t) (makeError .invalidArgument refusal)

/-- The intent with a name (source `register_intent_from_string`). -/
def registerIntentFromString (t : Bytes) : Option RegisterIntent :=
  if t = text "current" then some .ensureCurrent
  else if t = text "new_incarnation" then some .newIncarnation
  else none

/-- The kind of evidence with a name (source `dispatch`, `source.register`). -/
def evidenceKindFromText (t : Bytes) : Option EvidenceKind :=
  if t = text "real" then some .real
  else if t = text "synthetic" then some .synthetic
  else if t = text "unsupported" then some .unsupported
  else none

/-- The name of the operation (source `request_op`). -/
def requestOp (request : Value) : Result Bytes := do
  let op ← getText request "op"
  refuseIf (op = [] ∨ 64 < op.length)
    (makeError .malformed "request op must be a short non-empty name")
  .ok op

/-- The parameters, which may stand in the request itself (source `params_of`). -/
def paramsOf (request : Value) : Value := (request.find (text "params")).getD request

/-- A parameter that must be there (source the calls of `Value::find` in `dispatch`). -/
def requireParam (params : Value) (key refusal : String) : Result Value :=
  orRefuse (params.find (text key)) (makeError .invalidArgument refusal)

/-- Read the authority (source `read_authority_param`). -/
def readAuthorityParam (params : Value) : Result AuthorityToken := do
  decode (← requireParam params "authority" "request is missing its authority token")

/-- Read the policy (source `read_policy_param`). -/
def readPolicyParam (params : Value) : Result MutationPolicy :=
  let policy := getTextOr params "policy" (text "require_generation")
  if policy = text "require_generation" then .ok .requireGeneration
  else if policy = text "auto_retry" then .ok .autoRetry
  else .error (makeError .invalidArgument "unknown mutation policy")

/-- Read the handle of a module (source `read_module_handle`). -/
def readModuleHandle (params : Value) : Result ModuleHandle := do
  decode (← requireParam params "module" "request is missing its module handle")

/-- Read a reference to a module (source `read_module_reference`). -/
def readModuleReference (params : Value) : Result ModuleHandle := do
  let uid ← getUnsigned params "uid"
  let incarnation ← getUnsigned params "incarnation"
  refuseIf (uid = 0 ∨ incarnation = 0 ∨ 0xFFFFFFFF < incarnation)
    (makeError .invalidArgument "module reference is out of range")
  .ok { uid, incarnation := incarnation.toUInt32
        generation := getUnsignedOr params "generation" 0, key := .none }

section Mutations

variable [StdSort] (params : Value)

/-- Read a registration of a source (source `dispatch`, `source.register`). Its policy is the default
of `register_source`. -/
def readSourceRegister : Result Operation := do
  let name ← getText params "name"
  let kind ← orRefuse (evidenceKindFromText (getTextOr params "kind" (text "synthetic")))
    (makeError .invalidArgument "unknown evidence kind")
  .ok (.registerSource { name, description := getTextOr params "description" []
                         declaredKind := kind
                         instanceId := getTextOr params "instance_id" [] } .autoRetry)

/-- Read a registration of a module (source `dispatch`, `module.register`). -/
def readModuleRegister : Result Operation := do
  let key ← TextKey.parse (← getText params "key") (text "module key")
  let intent ← orRefuse
    (registerIntentFromString (getTextOr params "intent" (text "current")))
    (makeError .invalidArgument "unknown module registration intent")
  let identity ← decodeEach decode (getArrayOr params "identity")
  let provenance ← decode
    (← requireParam params "provenance" "module.register requires provenance")
  let policy ← readPolicyParam params
  let expectedGeneration := getUnsignedOr params "expected_generation" 0
  let authority ← readAuthorityParam params
  .ok (.registerModule { key, identity, intent, provenance, policy, expectedGeneration } authority)

/-- Read a change of an identity field (source `dispatch`, `identity.update`). -/
def readIdentityUpdate : Result Operation := do
  let authority ← readAuthorityParam params
  let module ← readModuleHandle params
  let field ← readName IdentityField.toText (getTextOr params "field" []) "unknown identity field"
  let value := { field, subkey := getTextOr params "subkey" [], value := getTextOr params "value" [] }
  let provenance ← decode
    (← requireParam params "provenance" "identity.update requires provenance")
  let policy ← readPolicyParam params
  .ok (.updateIdentity authority module value provenance policy)

/-- What a publication of a capability says (source `dispatch`, `capability.publish`). -/
structure CapabilityPublication where
  authority : AuthorityToken
  key : CapabilityKey
  subkey : Bytes
  value : CapabilityValue
  provenance : Provenance
  policy : MutationPolicy

/-- Read what both publications of a capability say (source `dispatch`, `capability.publish` and
`port.capability.publish`). -/
def readCapability : Result CapabilityPublication := do
  let authority ← readAuthorityParam params
  let key ← readName CapabilityKey.toText (getTextOr params "key" []) "unknown capability key"
  let value ← decode
    (← requireParam params "value" "capability publication requires a value")
  let provenance ← decode
    (← requireParam params "provenance" "capability publication requires provenance")
  let policy ← readPolicyParam params
  .ok { authority, key, subkey := getTextOr params "subkey" [], value, provenance, policy }

/-- Read a declaration about a module (source `dispatch`, `capability.publish`). -/
def readCapabilityPublish : Result Operation := do
  let said ← readCapability params
  let module ← readModuleHandle params
  .ok (.publishCapability said.authority module said.key said.subkey said.value said.provenance
    said.policy)

/-- Read a declaration about a port (source `dispatch`, `port.capability.publish`). -/
def readPortCapabilityPublish : Result Operation := do
  let said ← readCapability params
  let port ← TextKey.parse (getTextOr params "port" []) (text "port key")
  .ok (.publishPortCapability said.authority port said.key said.subkey said.value said.provenance
    said.policy)

/-- Read an attachment (source `dispatch`, `attachment.attach`). -/
def readAttach : Result Operation := do
  let authority ← readAuthorityParam params
  let module ← readModuleHandle params
  let slot ← TextKey.parse (getTextOr params "slot" []) (text "slot key")
  let policy ← readPolicyParam params
  let portIndex := getUnsignedOr params "port_index" 0
  refuseIf (255 < portIndex) (makeError .invalidArgument "port index is out of range")
  .ok (.attach authority module slot portIndex.toUInt32 policy)

/-- Read a detachment (source `dispatch`, `attachment.detach`). -/
def readDetach : Result Operation := do
  let authority ← readAuthorityParam params
  let slot ← TextKey.parse (getTextOr params "slot" []) (text "slot key")
  let policy ← readPolicyParam params
  .ok (.detach authority slot policy)

/-- Read a sample (source `dispatch`, `health.ingest`). -/
def readHealthIngest : Result Operation := do
  let authority ← readAuthorityParam params
  let module ← readModuleHandle params
  let sample ← decode (← requireParam params "sample" "health.ingest requires a sample")
  let policy ← readPolicyParam params
  .ok (.ingestHealth authority module sample policy)

/-- Read a threshold (source `dispatch`, `health.threshold.publish`). -/
def readThresholdPublish : Result Operation := do
  let authority ← readAuthorityParam params
  let threshold ← decode
    (← requireParam params "threshold" "health.threshold.publish requires a threshold")
  let policy ← readPolicyParam params
  .ok (.publishThreshold authority threshold policy)

/-- Read a rule (source `dispatch`, `compat.rule.publish`). -/
def readRulePublish : Result Operation := do
  let authority ← readAuthorityParam params
  let rule ← decode (← requireParam params "rule" "compat.rule.publish requires a rule")
  let policy ← readPolicyParam params
  .ok (.publishRule authority rule policy)

/-- Read a transition (source `dispatch`, `lifecycle.transition`). -/
def readTransition : Result Operation := do
  let authority ← readAuthorityParam params
  let module ← readModuleHandle params
  let policy ← readPolicyParam params
  let target ← readName LifecycleState.toText (getTextOr params "state" [])
    "unknown lifecycle state"
  .ok (.transition authority module target (getTextOr params "reason" []) policy)

/-- Read a reconciliation (source `dispatch`, `lifecycle.reconcile`). -/
def readReconcile : Result Operation := do
  let authority ← readAuthorityParam params
  let module ← readModuleHandle params
  let policy ← readPolicyParam params
  .ok (.reconcileLifecycle authority module policy)

end Mutations

/-- The operations that mutate the registry, with the readers of their parameters
(source `dispatch`). -/
def mutationReaders [StdSort] : List (String × (Value → Result Operation)) := [
  ("source.register", readSourceRegister),
  ("module.register", readModuleRegister),
  ("identity.update", readIdentityUpdate),
  ("capability.publish", readCapabilityPublish),
  ("port.capability.publish", readPortCapabilityPublish),
  ("attachment.attach", readAttach),
  ("attachment.detach", readDetach),
  ("health.ingest", readHealthIngest),
  ("health.threshold.publish", readThresholdPublish),
  ("compat.rule.publish", readRulePublish),
  ("lifecycle.transition", readTransition),
  ("lifecycle.reconcile", readReconcile)]

/-- The entry of a table with a name (source the comparisons with `name` in `dispatch`). -/
def entryNamed {α : Type} (table : List (String × α)) (name : Bytes) : Option α :=
  (table.find? fun entry => text entry.1 = name).map (·.2)

/-- The reader of an operation that mutates the registry (source `dispatch`). -/
def mutationReader [StdSort] (name : Bytes) : Option (Value → Result Operation) :=
  entryNamed mutationReaders name

end TransceiverRegistry

import TransceiverRegistry.Registry.Evidence
import TransceiverRegistry.Registry.HealthReport

/-!
# Slots and the lifecycle

Port of `attach`, `detach`, `transition` and `reconcile_lifecycle` of `registry.cpp`, and of the
queries for the attachment of a slot and of a module.
-/

namespace TransceiverRegistry

open Lib

/-- Apply a move to a record (source the blocks that set `record.state`). -/
def ModuleRecord.move (config : RegistryConfig) (record : ModuleRecord) (event : LifecycleEvent) :
    ModuleRecord :=
  { record with
    state := event.to_
    stateGeneration := event.generation
    stateSequence := event.sequence
    stateWallNs := event.wallNs
    lifecycle := trimLifecycle config (record.lifecycle ++ [event]) }

/-- The attachment is live and names this module incarnation (source `Registry::attach`,
`Registry::attachment_of_module`). -/
def AttachmentRecord.holds (attachment : AttachmentRecord) (uid : ModuleUid)
    (incarnation : IncarnationId) : Bool :=
  attachment.live && attachment.uid = uid && attachment.incarnation = incarnation

/-- The number of live attachments (source `Registry::attach`, `live_attachments`). -/
def liveAttachments (s : State) : Nat := s.attachments.toList.countP fun entry => entry.2.live

/-- The attachments once a slot is taken from the module that occupies it
(source `Registry::attach`). -/
def takeOver (config : RegistryConfig) (slot : SlotKey) (s : State) :
    Result (Std.ExtTreeMap Bytes AttachmentRecord compare) :=
  match s.attachments[slot.str]? with
  | some existing =>
    if existing.live then
      .ok (s.attachments.insert slot.str { existing with
        live := false, note := text "slot taken over by another module incarnation" })
    else .ok s.attachments
  | none => do
    refuseIf (config.maxAttachments.toNat ≤ liveAttachments s)
      (makeError .capacityExceeded "attachment budget is exhausted")
    .ok s.attachments

/-- The attachment an attach writes (source `Registry::attach`). -/
def newAttachment (clock : Clock) (authority : AuthorityToken) (generation : Generation)
    (sequence : Sequence) (slot : SlotKey) (portIndex : UInt32) (record : ModuleRecord) :
    AttachmentRecord where
  slot
  portIndex
  uid := record.uid
  incarnation := record.incarnation
  source := authority.source
  sourceEpoch := authority.epoch
  generation
  sequence
  attachedAtWallNs := clock.wallNowNs 0
  live := true
  note := []

/-- The body of `attach` (source `Registry::attach`). -/
def attachBody (config : RegistryConfig) (clock : Clock) (authority : AuthorityToken)
    (module : ModuleHandle) (slot : SlotKey) (portIndex : UInt32) (s : State)
    (generation : Generation) (sequence : Sequence) : Result (State × AttachmentRecord) := do
  let record ← currentModule s authority module
    "the referenced module incarnation was replaced; it cannot be attached to a slot"
  match s.attachments[slot.str]?.filter (·.holds record.uid record.incarnation) with
  | some existing => .ok (s, existing)
  | none =>
    refuseIf (record.state ≠ .attached ∧ lifecycleTransitionAllowed record.state .attached = false)
      ⟨.invalidTransition,
        text "a module in state " ++ record.state.toText ++ text " cannot be attached"⟩
    let attachments ← takeOver config slot s
    let attachment := newAttachment clock authority generation sequence slot portIndex record
    let event := lifecycleEvent authority generation sequence (clock.wallNowNs 0)
      record.incarnation record.state .attached (text "module attached to slot " ++ slot.str)
    -- a module that is attached already keeps its state, whatever slot it was attached to
    let record := if record.state ≠ .attached then record.move config event else record
    .ok ({ s with
      modules := s.modules.insert module.uid record
      attachments := attachments.insert slot.str attachment }, attachment)

/-- Put a module into a slot (source `Registry::attach`). -/
def attach (config : RegistryConfig) (clock : Clock) (authority : AuthorityToken)
    (module : ModuleHandle) (slot : SlotKey) (portIndex : UInt32) (policy : MutationPolicy)
    (s : State) : Result (State × AttachmentRecord) := do
  refuseIf (slot.str = []) (makeError .invalidArgument "a slot key is required")
  refuseIf (255 < portIndex) (makeError .invalidArgument "port index is out of range")
  mutate policy.fenced module.generation
    (attachBody config clock authority module slot portIndex) s

/-- The body of `detach` (source `Registry::detach`). -/
def detachBody (config : RegistryConfig) (clock : Clock) (authority : AuthorityToken)
    (slot : SlotKey) (s : State) (generation : Generation) (sequence : Sequence) :
    Result (State × Unit) := do
  requireAuthority s authority
  let attachment ← orRefuse (s.attachments[slot.str]?.filter (·.live))
    (makeError .notFound "no live attachment exists for this slot")
  let s := { s with attachments := s.attachments.insert slot.str { attachment with
    live := false, note := text "detached" } }
  match s.modules[attachment.uid]? with
  | none => .ok (s, ())
  | some record =>
    if record.incarnation ≠ attachment.incarnation then .ok (s, ())
    else if lifecycleStateImpliesAttachment record.state then do
      refuseIf (lifecycleTransitionAllowed record.state .removed = false)
        (makeError .internal "a physically attached module must be removable")
      let event := lifecycleEvent authority generation sequence (clock.wallNowNs 0)
        record.incarnation record.state .removed (text "module detached from slot " ++ slot.str)
      .ok ({ s with modules := s.modules.insert attachment.uid (record.move config event) }, ())
    else .ok (s, ())

/-- Take the module out of a slot (source `Registry::detach`). -/
def detach (config : RegistryConfig) (clock : Clock) (authority : AuthorityToken) (slot : SlotKey)
    (policy : MutationPolicy) (s : State) : Result (State × Unit) :=
  mutate policy.fenced 0 (detachBody config clock authority slot) s

/-- The live attachment of a slot (source `Registry::attachment_of_slot`). -/
def attachmentOfSlot (s : State) (slot : SlotKey) : Result AttachmentRecord :=
  orRefuse (s.attachments[slot.str]?.filter (·.live))
    (makeError .notFound "no live attachment exists for this slot")

/-- The body of `transition` (source `Registry::transition`). -/
def transitionBody (config : RegistryConfig) (clock : Clock) (authority : AuthorityToken)
    (module : ModuleHandle) (target : LifecycleState) (reason : Bytes) (s : State)
    (generation : Generation) (sequence : Sequence) : Result (State × LifecycleEvent) := do
  let record ← currentModule s authority module
    "the referenced module incarnation was replaced; its lifecycle cannot be advanced"
  refuseIf (lifecycleTransitionAllowed record.state target = false) ⟨.invalidTransition,
    text "transition from " ++ record.state.toText ++ text " to " ++ target.toText ++
      text " is not permitted"⟩
  let event := lifecycleEvent authority generation sequence (clock.wallNowNs 0) record.incarnation
    record.state target reason
  .ok ({ s with modules := s.modules.insert module.uid (record.move config event) }, event)

/-- Move a module as an operator asks (source `Registry::transition`). -/
def transition (config : RegistryConfig) (clock : Clock) (authority : AuthorityToken)
    (module : ModuleHandle) (target : LifecycleState) (reason : Bytes) (policy : MutationPolicy)
    (s : State) : Result (State × LifecycleEvent) := do
  refuseIf (512 < reason.length) (makeError .invalidArgument "lifecycle reason is too long")
  mutate policy.fenced module.generation
    (transitionBody config clock authority module target reason) s

/-- The state the health evidence asks for (source `Registry::reconcile_lifecycle`, `target`). -/
def reconcileTarget (state : LifecycleState) (report : HealthReport) : LifecycleState :=
  let unhealthy := report.worst = .critical ∨ report.worst = .degraded
  let healthy := report.outcome = .fresh ∧ report.worst = .ok
  if unhealthy ∧ (state = .active ∨ state = .attached) then .degraded
  else if healthy ∧ (state = .degraded ∨ state = .attached) then .active
  else state

/-- The body of `reconcile_lifecycle` (source `Registry::reconcile_lifecycle`). -/
def reconcileLifecycleBody [StdSort] (config : RegistryConfig) (clock : Clock)
    (authority : AuthorityToken) (module : ModuleHandle) (s : State) (generation : Generation)
    (sequence : Sequence) : Result (State × LifecycleEvent) := do
  let record ← currentModule s authority module "the referenced module incarnation was replaced"
  let now := clock.wallNowNs 0
  let report := buildHealthReport config (clock.wallNowNs 1) (clock.domain 0) s record
  let target := reconcileTarget record.state report
  if target = record.state then
    .ok (s, lifecycleEvent authority generation 0 now record.incarnation record.state record.state
      (text "no transition required"))
  else do
    refuseIf (lifecycleTransitionAllowed record.state target = false) ⟨.invalidTransition,
      text "health reconciliation would need an illegal transition from " ++
        record.state.toText ++ text " to " ++ target.toText⟩
    let reason := if target = .degraded then text "health evidence indicates degradation"
      else text "health evidence is fresh and nominal"
    let event := lifecycleEvent authority generation sequence now record.incarnation record.state
      target reason
    .ok ({ s with modules := s.modules.insert module.uid (record.move config event) }, event)

/-- Move a module as its health evidence asks (source `Registry::reconcile_lifecycle`). -/
def reconcileLifecycle [StdSort] (config : RegistryConfig) (clock : Clock)
    (authority : AuthorityToken) (module : ModuleHandle) (policy : MutationPolicy) (s : State) :
    Result (State × LifecycleEvent) :=
  mutate policy.fenced module.generation
    (reconcileLifecycleBody config clock authority module) s

end TransceiverRegistry

import TransceiverRegistry.Lib.Run
import TransceiverRegistry.Registry.Slots
import TransceiverRegistry.Registry.Policy

/-!
# The registry as a transition system

The public mutations of `registry.hpp` as the actions of one transition system. A refused operation
leaves the state as it is, so the runs are the runs of successful operations.
-/

namespace TransceiverRegistry

open Lib

/-- A call of a public mutation (source `Registry`). -/
inductive Operation where
  | registerSource (descriptor : SourceDescriptor) (policy : MutationPolicy)
  | registerModule (registration : ModuleRegistration) (authority : AuthorityToken)
  | updateIdentity (authority : AuthorityToken) (module : ModuleHandle)
      (value : IdentityFieldValue) (provenance : Provenance) (policy : MutationPolicy)
  | publishCapability (authority : AuthorityToken) (module : ModuleHandle) (key : CapabilityKey)
      (subkey : Bytes) (value : CapabilityValue) (provenance : Provenance)
      (policy : MutationPolicy)
  | publishPortCapability (authority : AuthorityToken) (port : PortKey) (key : CapabilityKey)
      (subkey : Bytes) (value : CapabilityValue) (provenance : Provenance)
      (policy : MutationPolicy)
  | attach (authority : AuthorityToken) (module : ModuleHandle) (slot : SlotKey)
      (portIndex : UInt32) (policy : MutationPolicy)
  | detach (authority : AuthorityToken) (slot : SlotKey) (policy : MutationPolicy)
  | ingestHealth (authority : AuthorityToken) (module : ModuleHandle)
      (sample : HealthSampleInput) (policy : MutationPolicy)
  | publishThreshold (authority : AuthorityToken) (threshold : HealthThreshold)
      (policy : MutationPolicy)
  | publishRule (authority : AuthorityToken) (rule : CompatRule) (policy : MutationPolicy)
  | retireRule (authority : AuthorityToken) (id : RuleId) (policy : MutationPolicy)
  | transition (authority : AuthorityToken) (module : ModuleHandle) (target : LifecycleState)
      (reason : Bytes) (policy : MutationPolicy)
  | reconcileLifecycle (authority : AuthorityToken) (module : ModuleHandle)
      (policy : MutationPolicy)

/-- A condition on ingestions, which other operations meet. -/
def Operation.onIngestion
    (p : AuthorityToken → ModuleHandle → HealthSampleInput → MutationPolicy → Prop) :
    Operation → Prop
  | .ingestHealth authority module sample policy => p authority module sample policy
  | _ => True

instance Operation.decidableOnIngestion
    (p : AuthorityToken → ModuleHandle → HealthSampleInput → MutationPolicy → Prop)
    [∀ authority module sample policy, Decidable (p authority module sample policy)]
    (operation : Operation) : Decidable (operation.onIngestion p) := by
  cases operation
  case ingestHealth authority module sample policy =>
    exact inferInstanceAs (Decidable (p authority module sample policy))
  all_goals exact .isTrue trivial

/-- A call and the clock readings it takes. -/
structure Call where
  operation : Operation
  clock : Clock

variable [StdSort]

/-- The state after a call, or the error of a refused call. -/
def Call.run (config : RegistryConfig) (call : Call) (s : State) : Result State :=
  match call.operation with
  | .registerSource descriptor policy =>
    Prod.fst <$> registerSource config call.clock descriptor policy s
  | .registerModule registration authority =>
    Prod.fst <$> registerModule config call.clock registration authority s
  | .updateIdentity authority module value provenance policy =>
    Prod.fst <$> updateIdentity config call.clock authority module value provenance policy s
  | .publishCapability authority module key subkey value provenance policy =>
    Prod.fst <$>
      publishCapability config call.clock authority module key subkey value provenance policy s
  | .publishPortCapability authority port key subkey value provenance policy =>
    Prod.fst <$>
      publishPortCapability config call.clock authority port key subkey value provenance policy s
  | .attach authority module slot portIndex policy =>
    Prod.fst <$> attach config call.clock authority module slot portIndex policy s
  | .detach authority slot policy =>
    Prod.fst <$> detach config call.clock authority slot policy s
  | .ingestHealth authority module sample policy =>
    Prod.fst <$> ingestHealth config call.clock authority module sample policy s
  | .publishThreshold authority threshold policy =>
    Prod.fst <$> publishThreshold config authority threshold policy s
  | .publishRule authority rule policy => Prod.fst <$> publishRule config authority rule policy s
  | .retireRule authority id policy => Prod.fst <$> retireRule authority id policy s
  | .transition authority module target reason policy =>
    Prod.fst <$> transition config call.clock authority module target reason policy s
  | .reconcileLifecycle authority module policy =>
    Prod.fst <$> reconcileLifecycle config call.clock authority module policy s

/-- The transition system of the registry: a call leads to the state it commits. -/
def step (config : RegistryConfig) (s : State) (call : Call) : Option State :=
  match call.run config s with
  | .ok s' => some s'
  | .error _ => none

/-- A call whose operation may act on a state, with its arguments accepted before the mutation. -/
def Operation.Checked (config : RegistryConfig) (clock : Clock) : Operation → Prop
  | .registerSource descriptor _ =>
    descriptor.name ≠ [] ∧ descriptor.name.length ≤ kMaxKeyBytes ∧
    isValidUtf8 descriptor.name = true ∧ isValidUtf8 descriptor.instanceId = true ∧
    descriptor.description.length ≤ 512 ∧ descriptor.instanceId.length ≤ 128
  | .registerModule registration _ =>
    registration.key.str ≠ [] ∧ registration.provenance.Valid ∧
    (∀ value ∈ registration.identity, value.Valid) ∧
    (registration.identity.map fun value => (value.field, value.subkey)).Nodup
  | .updateIdentity _ _ value provenance _ => value.Valid ∧ provenance.Valid
  | .publishCapability _ _ key subkey value provenance _ =>
    validateCapabilityKey key subkey = .ok () ∧ subkey.length ≤ 128 ∧
    value.validateFor key = .ok () ∧ provenance.Valid
  | .publishPortCapability _ port key subkey value provenance _ =>
    validateCapabilityKey key subkey = .ok () ∧ port.str ≠ [] ∧
    value.validateFor key = .ok () ∧ provenance.Valid
  | .attach _ _ slot portIndex _ => slot.str ≠ [] ∧ portIndex ≤ 255
  | .detach _ _ _ => True
  | .ingestHealth _ _ sample _ =>
    validateSample config sample = .ok () ∧ sample.observedAtWallNs.toInt ≤
      (clock.wallNowNs 0).toInt + config.maxFutureSkewNs.toInt
  | .publishThreshold _ threshold _ =>
    validateThreshold threshold = .ok () ∧ threshold.provenance.Valid
  | .publishRule _ rule _ => validateRule rule = .ok () ∧ rule.provenance.Valid
  | .retireRule _ _ _ => True
  | .transition _ _ _ reason _ => reason.length ≤ 512
  | .reconcileLifecycle _ _ _ => True

/-- The body an operation runs on the copy of the state. -/
def Operation.body (config : RegistryConfig) (clock : Clock) (s : State) (generation : Generation)
    (sequence : Sequence) : Operation → Result State
  | .registerSource descriptor _ =>
    Prod.fst <$> registerSourceBody config clock descriptor s generation sequence
  | .registerModule registration authority =>
    Prod.fst <$> registerModuleBody config clock registration authority s generation sequence
  | .updateIdentity authority module value provenance _ => Prod.fst <$>
      updateIdentityBody config clock authority module value provenance s generation sequence
  | .publishCapability authority module key subkey value provenance _ => Prod.fst <$>
      publishCapabilityBody config clock authority module key subkey value provenance s generation
        sequence
  | .publishPortCapability authority port key subkey value provenance _ => Prod.fst <$>
      publishPortCapabilityBody config clock authority port key subkey value provenance s
        generation sequence
  | .attach authority module slot portIndex _ =>
    Prod.fst <$> attachBody config clock authority module slot portIndex s generation sequence
  | .detach authority slot _ =>
    Prod.fst <$> detachBody config clock authority slot s generation sequence
  | .ingestHealth authority module sample _ => Prod.fst <$>
      ingestHealthBody config clock authority module sample (clock.wallNowNs 0) s generation
        sequence
  | .publishThreshold authority threshold _ =>
    Prod.fst <$> publishThresholdBody config authority threshold s generation sequence
  | .publishRule authority rule _ =>
    Prod.fst <$> publishRuleBody config authority rule s generation sequence
  | .retireRule authority id _ =>
    Prod.fst <$> retireRuleBody authority id s generation sequence
  | .transition authority module target reason _ => Prod.fst <$>
      transitionBody config clock authority module target reason s generation sequence
  | .reconcileLifecycle authority module _ =>
    Prod.fst <$> reconcileLifecycleBody config clock authority module s generation sequence

/-- Publish what a body left as the next generation (source `RegistryImpl::mutate`). -/
def State.publish (next : State) (generation : Generation) : State :=
  { next with generation, mutations := next.mutations + 1 }

omit [StdSort] in
/-- A generation that is not the last one has a next one. -/
lemma lt_next {generation : Generation} (room : generation ≠ 0xFFFFFFFFFFFFFFFF) :
    generation < generation + 1 := by
  have bound := generation.toNat_lt
  have below : generation.toNat ≠ 2 ^ 64 - 1 := fun full => room (UInt64.toNat_inj.1 full)
  rw [UInt64.lt_iff_toNat_lt, UInt64.toNat_add]
  change generation.toNat < (generation.toNat + 1) % 2 ^ 64
  omega

/-- What a step did: its arguments were accepted, its body succeeded on a copy of the state with a
fresh sequence number, and the result is the next generation (source `RegistryImpl::mutate`). -/
lemma step_eq_some {config : RegistryConfig} {s s' : State} {call : Call}
    (h : step config s call = some s') :
    call.operation.Checked config call.clock ∧
    ∃ next, call.operation.body config call.clock (nextSequence s).2 (s.generation + 1)
        (nextSequence s).1 = .ok next ∧
      s' = next.publish (s.generation + 1) := by
  have run : call.run config s = .ok s' := by
    unfold step at h
    split at h
    · cases h
      assumption
    · cases h
  obtain ⟨operation, clock⟩ := call
  cases operation <;> rw [Call.run, fst_map_eq_ok] at run <;> obtain ⟨a, run⟩ := run
  case registerSource =>
    simp only [registerSource, refuseIf_bind_eq_ok, mutate_eq_ok, not_or, Nat.not_lt,
      Bool.not_eq_false] at run
    obtain ⟨⟨h1, h2⟩, ⟨h3, h4⟩, ⟨h5, h6⟩, -, next, body, rfl⟩ := run
    exact ⟨⟨h1, h2, h3, h4, h5, h6⟩, next, fst_map_eq_ok.2 ⟨a, body⟩, rfl⟩
  case registerModule =>
    simp only [registerModule, refuseIf_eq_ok, bind_eq_ok, mutate_eq_ok,
      validateProvenance_eq_ok, validateIdentityValue_eq_ok, forEach_eq_ok, not_not] at run
    obtain ⟨_, h1, _, h2, _, h3, _, h4, -, next, body, rfl⟩ := run
    exact ⟨⟨h1, h2, h3, h4⟩, next, fst_map_eq_ok.2 ⟨a, body⟩, rfl⟩
  case updateIdentity =>
    simp only [updateIdentity, bind_eq_ok, mutate_eq_ok, validateProvenance_eq_ok,
      validateIdentityValue_eq_ok] at run
    obtain ⟨_, h1, _, h2, -, next, body, rfl⟩ := run
    exact ⟨⟨h1, h2⟩, next, fst_map_eq_ok.2 ⟨a, body⟩, rfl⟩
  case publishCapability =>
    simp only [publishCapability, refuseIf_eq_ok, bind_eq_ok, mutate_eq_ok,
      validateProvenance_eq_ok, Nat.not_lt] at run
    obtain ⟨_, h1, _, h2, _, h3, _, h4, -, next, body, rfl⟩ := run
    exact ⟨⟨h1, h2, h3, h4⟩, next, fst_map_eq_ok.2 ⟨a, body⟩, rfl⟩
  case publishPortCapability =>
    simp only [publishPortCapability, refuseIf_eq_ok, bind_eq_ok, mutate_eq_ok,
      validateProvenance_eq_ok] at run
    obtain ⟨_, h1, _, h2, _, h3, _, h4, -, next, body, rfl⟩ := run
    exact ⟨⟨h1, h2, h3, h4⟩, next, fst_map_eq_ok.2 ⟨a, body⟩, rfl⟩
  case attach =>
    simp only [attach, refuseIf_bind_eq_ok, mutate_eq_ok, UInt32.not_lt] at run
    obtain ⟨h1, h2, -, next, body, rfl⟩ := run
    exact ⟨⟨h1, h2⟩, next, fst_map_eq_ok.2 ⟨a, body⟩, rfl⟩
  case detach =>
    obtain ⟨-, next, body, rfl⟩ := mutate_eq_ok.1 run
    exact ⟨trivial, next, fst_map_eq_ok.2 ⟨a, body⟩, rfl⟩
  case ingestHealth =>
    simp only [ingestHealth, refuseIf_eq_ok, bind_eq_ok, mutate_eq_ok, Int.not_lt] at run
    obtain ⟨_, h1, _, h2, -, next, body, rfl⟩ := run
    exact ⟨⟨h1, h2⟩, next, fst_map_eq_ok.2 ⟨a, body⟩, rfl⟩
  case publishThreshold =>
    simp only [publishThreshold, bind_eq_ok, mutate_eq_ok, validateProvenance_eq_ok] at run
    obtain ⟨_, h1, _, h2, -, next, body, rfl⟩ := run
    exact ⟨⟨h1, h2⟩, next, fst_map_eq_ok.2 ⟨a, body⟩, rfl⟩
  case publishRule =>
    simp only [publishRule, bind_eq_ok, mutate_eq_ok, validateProvenance_eq_ok] at run
    obtain ⟨_, h1, _, h2, -, next, body, rfl⟩ := run
    exact ⟨⟨h1, h2⟩, next, fst_map_eq_ok.2 ⟨a, body⟩, rfl⟩
  case retireRule =>
    obtain ⟨-, next, body, rfl⟩ := mutate_eq_ok.1 run
    exact ⟨trivial, next, fst_map_eq_ok.2 ⟨a, body⟩, rfl⟩
  case transition =>
    simp only [transition, refuseIf_bind_eq_ok, mutate_eq_ok, Nat.not_lt] at run
    obtain ⟨h1, -, next, body, rfl⟩ := run
    exact ⟨h1, next, fst_map_eq_ok.2 ⟨a, body⟩, rfl⟩
  case reconcileLifecycle =>
    obtain ⟨-, next, body, rfl⟩ := mutate_eq_ok.1 run
    exact ⟨trivial, next, fst_map_eq_ok.2 ⟨a, body⟩, rfl⟩

/-- A step leads to a later generation (source `RegistryImpl::mutate`). -/
lemma generation_lt_of_step {config : RegistryConfig} {s s' : State} {call : Call}
    (room : s.generation ≠ 0xFFFFFFFFFFFFFFFF) (taken : step config s call = some s') :
    s.generation < s'.generation := by
  obtain ⟨_, next, _, rfl⟩ := step_eq_some taken
  exact lt_next room

/-- A clock that stands at a time. -/
def clockAt (now : WallNs) : Clock := ⟨fun _ => now, 1, fun _ => 1⟩

/-- A clock that stands still. -/
def stillClock : Clock := ⟨fun _ => 1, 1, fun _ => 1⟩

/-- Evidence of the host. -/
def hostEvidence : Provenance := ⟨.synthetic, text "host", [], ⟨Vector.replicate 32 0⟩, []⟩

/-- The authority of the first source. -/
def host : AuthorityToken := ⟨1, 1⟩

/-- The key with a printable name. -/
def key {tag : KeyTag} (name : String) (h : IsKeyText (text name)) : TextKey tag :=
  ⟨text name, .inr h⟩

/-- Take an operation at the still clock. -/
def Operation.now (operation : Operation) : Call := ⟨operation, stillClock⟩

/-- Register the source `host`. -/
def registerHost : Call :=
  Operation.now (.registerSource ⟨text "host", [], .synthetic, []⟩ .autoRetry)

/-- Register a module under a key. -/
def registerBay (bay : ModuleKey) (intent : RegisterIntent) : Call :=
  Operation.now (.registerModule ⟨bay, [], intent, hostEvidence, .autoRetry, 0⟩ host)

/-- Put the first incarnation of a module into a slot. -/
def attachFirst (uid : ModuleUid) (bay : ModuleKey) (slot : SlotKey) : Call :=
  Operation.now (.attach host ⟨uid, 1, 0, bay⟩ slot 0 .autoRetry)

/-- Move the first incarnation of a module as an operator. -/
def moveFirst (uid : ModuleUid) (bay : ModuleKey) (target : LifecycleState) : Call :=
  Operation.now (.transition host ⟨uid, 1, 0, bay⟩ target [] .autoRetry)

/-- Two module positions. -/
def bayA : ModuleKey := key "A" (by decide)
def bayB : ModuleKey := key "B" (by decide)

/-- Two slots. -/
def slotA : SlotKey := key "sa" (by decide)
def slotB : SlotKey := key "sb" (by decide)

end TransceiverRegistry

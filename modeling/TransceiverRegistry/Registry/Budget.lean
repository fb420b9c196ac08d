import TransceiverRegistry.Registry.Liveness
import TransceiverRegistry.Registry.Operation

/-!
# Budgets and dead evidence

When a module has no room for one more claim or declaration. A trim erases what a later statement of
the same source incarnation covers and nothing else, so the statements of retired source epochs and
of fenced incarnations keep their place in the budget for good.
-/

namespace TransceiverRegistry

open Lib

/-- A call on a module that only a full budget can refuse: the source has authority, the handle
names the current incarnation and the fence holds (source the head of the mutation bodies). -/
structure Ready (s : State) (authority : AuthorityToken) (module : ModuleHandle)
    (policy : MutationPolicy) (record : ModuleRecord) : Prop where
  authority : requireAuthority s authority = .ok ()
  found : s.modules[module.uid]? = some record
  current : record.incarnation = module.incarnation
  fence : ¬ (policy.fenced = true ∧ module.generation ≠ 0 ∧ module.generation ≠ s.generation)

/-- The call was refused for want of room. -/
def OutOfRoom {α : Type} (result : Result α) : Prop :=
  ∃ e, result = .error e ∧ e.code = .capacityExceeded

/-- The number of live claims about the current incarnation (source `live_claims`). -/
def liveClaimCount (s : State) (record : ModuleRecord) : Nat :=
  (liveClaims s record record.incarnation).countP (·.live)

/-- The number of live declarations about the current incarnation (source `live_declarations`). -/
def liveDeclarationCount (s : State) (record : ModuleRecord) : Nat :=
  (liveDeclarations s record record.incarnation).countP (·.live)

variable {config : RegistryConfig} {clock : Clock} {s : State} {authority : AuthorityToken}
  {module : ModuleHandle} {policy : MutationPolicy} {record : ModuleRecord}
  {provenance : Provenance}

/-- The module of a ready call is found in the copy of the state (source the head of the mutation
bodies). -/
lemma Ready.currentModule (ready : Ready s authority module policy record) (fenced : String) :
    currentModule (nextSequence s).2 authority module fenced = .ok record :=
  currentModule_eq_ok.2 ⟨ready.authority, ready.found, ready.current⟩

/-- The claim an identity update adds (source `Registry::update_identity`). -/
def updatedClaim (clock : Clock) (authority : AuthorityToken) (record : ModuleRecord)
    (value : IdentityFieldValue) (provenance : Provenance) (s : State) : IdentityClaim :=
  identityClaim authority (s.generation + 1) s.nextSequence (clock.wallNowNs 0) (clock.domain 0)
    record provenance value

/-- The declaration a publication adds (source `Registry::publish_capability`). -/
def publishedDeclaration (clock : Clock) (authority : AuthorityToken) (record : ModuleRecord)
    (key : CapabilityKey) (subkey : Bytes) (value : CapabilityValue) (provenance : Provenance)
    (s : State) : CapabilityDeclaration :=
  moduleDeclaration clock authority (s.generation + 1) s.nextSequence record key subkey value
    provenance

section Room

variable [StdSort]

/-- A valid identity update is out of room exactly when the claims that no claim revises exceed the
budget (source `Registry::update_identity`). -/
lemma updateIdentity_outOfRoom (ready : Ready s authority module policy record)
    {value : IdentityFieldValue} (valid : value.Valid) (evidence : provenance.Valid) :
    OutOfRoom (updateIdentity config clock authority module value provenance policy s) ↔
      config.maxClaimsPerModule.toNat < (uncovered claimCovers
        (record.claims ++ [updatedClaim clock authority record value provenance s])).length := by
  have refused (e : Error) :
      updateIdentity config clock authority module value provenance policy s = .error e ↔
        e = claimsExhausted ∧ config.maxClaimsPerModule.toNat < (uncovered claimCovers
          (record.claims ++ [updatedClaim clock authority record value provenance s])).length := by
    unfold updateIdentity
    rw [(validateIdentityValue_eq_ok (u := ())).2 valid, ok_bind,
      (validateProvenance_eq_ok (u := ())).2 evidence, ok_bind,
      mutate_eq_error ready.fence, updateIdentityBody, ready.currentModule, ok_bind, bind_eq_error]
    rw [or_iff_left (by rintro ⟨claims, _, h⟩; cases h)]
    exact trimClaims_eq_error
  constructor
  · rintro ⟨e, h, _⟩
    exact ((refused e).1 h).2
  · intro exceeds
    exact ⟨claimsExhausted, (refused _).2 ⟨rfl, exceeds⟩, rfl⟩

/-- A valid publication is out of room exactly when the declarations that no declaration revises
exceed the budget (source `Registry::publish_capability`). -/
lemma publishCapability_outOfRoom (ready : Ready s authority module policy record)
    {key : CapabilityKey} {subkey : Bytes} {value : CapabilityValue}
    (named : validateCapabilityKey key subkey = .ok ()) (short : subkey.length ≤ 128)
    (valid : value.validateFor key = .ok ()) (evidence : provenance.Valid) :
    OutOfRoom (publishCapability config clock authority module key subkey value provenance policy
      s) ↔
      config.maxDeclarationsPerModule.toNat < (uncovered declarationCovers (record.declarations ++
        [publishedDeclaration clock authority record key subkey value provenance s])).length := by
  have refused (e : Error) :
      publishCapability config clock authority module key subkey value provenance policy s =
        .error e ↔
        e = declarationsExhausted ∧ config.maxDeclarationsPerModule.toNat <
          (uncovered declarationCovers (record.declarations ++
            [publishedDeclaration clock authority record key subkey value provenance
              s])).length := by
    unfold publishCapability
    rw [named, ok_bind, refuseIf_of_not (Nat.not_lt.2 short), ok_bind, valid, ok_bind,
      (validateProvenance_eq_ok (u := ())).2 evidence, ok_bind, mutate_eq_error ready.fence,
      publishCapabilityBody, ready.currentModule, ok_bind, bind_eq_error]
    rw [or_iff_left (by rintro ⟨declarations, _, h⟩; cases h)]
    exact trimDeclarations_eq_error
  constructor
  · rintro ⟨e, h, _⟩
    exact ((refused e).1 h).2
  · intro exceeds
    exact ⟨declarationsExhausted, (refused _).2 ⟨rfl, exceeds⟩, rfl⟩

/-- A module with room among its live statements accepts one more exactly when the statements that
none revises, dead ones included, fit the budget (source `trim_claims`, `trim_declarations`). -/
theorem room_for_live_evidence_iff (ready : Ready s authority module policy record)
    (evidence : provenance.Valid) :
    (∀ value : IdentityFieldValue, value.Valid →
      ((liveClaimCount s record < config.maxClaimsPerModule.toNat →
          ¬ OutOfRoom (updateIdentity config clock authority module value provenance policy s)) ↔
        (liveClaimCount s record < config.maxClaimsPerModule.toNat →
          (uncovered claimCovers (record.claims ++
            [updatedClaim clock authority record value provenance s])).length ≤
            config.maxClaimsPerModule.toNat))) ∧
    (∀ (key : CapabilityKey) (subkey : Bytes) (value : CapabilityValue),
      validateCapabilityKey key subkey = .ok () → subkey.length ≤ 128 →
      value.validateFor key = .ok () →
      ((liveDeclarationCount s record < config.maxDeclarationsPerModule.toNat →
          ¬ OutOfRoom (publishCapability config clock authority module key subkey value provenance
            policy s)) ↔
        (liveDeclarationCount s record < config.maxDeclarationsPerModule.toNat →
          (uncovered declarationCovers (record.declarations ++
            [publishedDeclaration clock authority record key subkey value provenance s])).length ≤
            config.maxDeclarationsPerModule.toNat))) := by
  constructor
  · intro value valid
    rw [updateIdentity_outOfRoom ready valid evidence, Nat.not_lt]
  · intro key subkey value named short valid
    rw [publishCapability_outOfRoom ready named short valid evidence, Nat.not_lt]

end Room

/-- A statement about the serial number of a module. -/
def serialNumber : IdentityFieldValue := ⟨.serialNumber, [], text "1"⟩

/-- The first incarnation of the module `A`. -/
def firstA : ModuleHandle := ⟨1, 1, 0, bayA⟩

/-- State the serial number of the module `A` in the name of the first source. -/
def stateSerial (epoch : SourceEpoch) : Call :=
  Operation.now (.updateIdentity ⟨1, epoch⟩ firstA serialNumber hostEvidence .autoRetry)

/-- The statement is valid. -/
lemma serialNumber_valid : serialNumber.Valid :=
  validateIdentityValue_eq_ok.1 (show validateIdentityValue serialNumber = .ok () by
    decide +kernel)

/-- The evidence of the host is valid. -/
lemma hostEvidence_valid : hostEvidence.Valid :=
  validateProvenance_eq_ok.1 (show validateProvenance hostEvidence = .ok () by decide +kernel)

/-- What a state shows about the next serial number of the module `A`: the source is at an epoch,
the module at its first incarnation, and so many statements are live and not revised. -/
def showsRoom (s : State) (epoch : SourceEpoch) (live unrevised : Nat) : Bool :=
  sourceIsLive s 1 epoch && s.modules[(1 : UInt64)]?.any fun record =>
    record.incarnation = 1 && liveClaimCount s record = live &&
    decide ((uncovered claimCovers (record.claims ++ [updatedClaim stillClock ⟨1, epoch⟩ record
      serialNumber hostEvidence s])).length = unrevised)

/-- A state that shows this is ready for the statement. -/
lemma ready_of_showsRoom {s : State} {epoch : SourceEpoch} {live unrevised : Nat}
    (h : showsRoom s epoch live unrevised = true) :
    ∃ record, Ready s ⟨1, epoch⟩ firstA .autoRetry record ∧ liveClaimCount s record = live ∧
      (uncovered claimCovers (record.claims ++ [updatedClaim stillClock ⟨1, epoch⟩ record
        serialNumber hostEvidence s])).length = unrevised := by
  simp only [showsRoom, Bool.and_eq_true, Option.any_eq_true, decide_eq_true_eq] at h
  obtain ⟨known, record, found, ⟨current, few⟩, exceeds⟩ := h
  refine ⟨record, ⟨requireAuthority_eq_ok.2 ⟨by simp, known⟩, found, current, ?_⟩, few, exceeds⟩
  rintro ⟨fenced, _⟩
  cases fenced

/-- With a budget of one claim, a claim of a retired epoch refuses every claim of the current one:
no stored claim is live, and the identity update is out of room (source
`claim_is_superseded`). -/
theorem retired_claim_exhausts_budget :
    ∃ s record, Run (step { maxClaimsPerModule := 1 }) Unguarded State.initial s ∧
      Ready s ⟨1, 2⟩ firstA .autoRetry record ∧ serialNumber.Valid ∧ hostEvidence.Valid ∧
      liveClaimCount s record < 1 ∧
      OutOfRoom (updateIdentity { maxClaimsPerModule := 1 } stillClock ⟨1, 2⟩ firstA serialNumber
        hostEvidence .autoRetry s) := by
  have full : (runActions (step { maxClaimsPerModule := 1 }) [registerHost,
      registerBay bayA .ensureCurrent, stateSerial 1, registerHost] State.initial).any
      (showsRoom · 2 0 2) = true := by decide +kernel
  obtain ⟨s, reached, shows⟩ := Run.exists_ofActions full
  obtain ⟨record, ready, live, unrevised⟩ := ready_of_showsRoom shows
  refine ⟨s, record, reached, ready, serialNumber_valid, hostEvidence_valid, by omega, ?_⟩
  rw [updateIdentity_outOfRoom ready serialNumber_valid hostEvidence_valid, unrevised]
  decide

/-- With a budget of two claims and one live claim of its own, a source revises its claim. -/
theorem room_for_revised_claim :
    ∃ s record, Run (step { maxClaimsPerModule := 2 }) Unguarded State.initial s ∧
      Ready s host firstA .autoRetry record ∧ liveClaimCount s record = 1 ∧
      ¬ OutOfRoom (updateIdentity { maxClaimsPerModule := 2 } stillClock host firstA serialNumber
        hostEvidence .autoRetry s) := by
  have room : (runActions (step { maxClaimsPerModule := 2 }) [registerHost,
      registerBay bayA .ensureCurrent, stateSerial 1] State.initial).any
      (showsRoom · 1 1 1) = true := by decide +kernel
  obtain ⟨s, reached, shows⟩ := Run.exists_ofActions room
  obtain ⟨record, ready, live, unrevised⟩ := ready_of_showsRoom shows
  have few : liveClaimCount s record < (2 : UInt32).toNat := by
    rw [live]
    decide
  refine ⟨s, record, reached, ready, live, ?_⟩
  refine (((room_for_live_evidence_iff ready hostEvidence_valid).1 _ serialNumber_valid).2
    fun _ => ?_) few
  exact unrevised.trans_le (by decide)

end TransceiverRegistry

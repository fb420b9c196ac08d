import TransceiverRegistry.Registry.Budget
import TransceiverRegistry.Registry.Statements

/-!
# The last write wins

As long as the sequence counter does not wrap, the last accepted statement of a source about an
attribute is the one that is live. After a wrap it is dead, and the one before it stays live.
-/

namespace TransceiverRegistry

open Lib

variable {config : RegistryConfig} {s s' : State}

/-- The claims a source epoch made about an attribute of a module incarnation. -/
def IdentityClaim.states (uid : ModuleUid) (incarnation : IncarnationId) (source : SourceId)
    (epoch : SourceEpoch) (field : IdentityField) (subkey : Bytes) (claim : IdentityClaim) : Bool :=
  claim.module = uid ∧ claim.incarnation = incarnation ∧ claim.source = source ∧
  claim.sourceEpoch = epoch ∧ claim.field = field ∧ claim.subkey = subkey

/-- The claims of a source about an attribute that are marked live (source `live_claims`). -/
def liveClaimsOf (s : State) (record : ModuleRecord) (source : SourceId) (field : IdentityField)
    (subkey : Bytes) : List IdentityClaim :=
  (liveClaims s record record.incarnation).filter fun claim =>
    claim.live ∧ claim.source = source ∧ claim.field = field ∧ claim.subkey = subkey

/-- The declarations a source epoch made about an attribute of a module incarnation. -/
def CapabilityDeclaration.states (uid : ModuleUid) (incarnation : IncarnationId)
    (source : SourceId) (epoch : SourceEpoch) (key : CapabilityKey) (subkey : Bytes)
    (declaration : CapabilityDeclaration) : Bool :=
  declaration.module = uid ∧ declaration.incarnation = incarnation ∧
  declaration.source = source ∧ declaration.sourceEpoch = epoch ∧ declaration.key = key ∧
  declaration.subkey = subkey

/-- The declarations of a source about an attribute that are marked live (source
`live_declarations`). -/
def liveDeclarationsOf (s : State) (record : ModuleRecord) (source : SourceId)
    (key : CapabilityKey) (subkey : Bytes) : List CapabilityDeclaration :=
  (liveDeclarations s record record.incarnation).filter fun declaration =>
    declaration.live ∧ declaration.source = source ∧ declaration.key = key ∧
    declaration.subkey = subkey

/-- A source has one current epoch (source `source_is_live`). -/
lemma sourceIsLive_unique {source : SourceId} {e e' : SourceEpoch}
    (h : sourceIsLive s source e = true) (h' : sourceIsLive s source e' = true) : e = e' := by
  unfold sourceIsLive at h h'
  split at h
  · rename_i record found
    rw [found] at h'
    exact (of_decide_eq_true h).symm.trans (of_decide_eq_true h')
  · cases h

/-- A list in which one entry is picked and kept, and no other one. -/
lemma filter_map_filter_eq_singleton {α β : Type*} {p : α → Bool} {f : α → β} {q : β → Bool}
    {front back : List α} {a : α} (picked : p a = true) (kept : q (f a) = true)
    (others : ∀ b ∈ front ++ back, p b = true → q (f b) = false) :
    (((front ++ a :: back).filter p).map f).filter q = [f a] := by
  have none (l : List α) (sub : ∀ b ∈ l, b ∈ front ++ back) :
      ((l.filter p).map f).filter q = [] := by
    rw [List.filter_eq_nil_iff]
    intro c member
    obtain ⟨b, inside, rfl⟩ := List.mem_map.1 member
    obtain ⟨member, picks⟩ := List.mem_filter.1 inside
    simp [others b (sub b member) picks]
  rw [List.filter_append, List.filter_cons_of_pos picked, List.map_append, List.map_cons,
    List.filter_append, List.filter_cons_of_pos kept, none front fun b h => List.mem_append_left _ h,
    none back fun b h => List.mem_append_right _ h, List.nil_append]

/-- The newest claim of a group is the live one (source `live_claims`). -/
lemma liveClaimsOf_eq {record : ModuleRecord} {front back : List IdentityClaim}
    {latest : IdentityClaim} (parts : record.claims = front ++ latest :: back)
    (newest : claimLabels.Newest latest (front ++ back))
    (current : latest.incarnation = record.incarnation)
    (live : sourceIsLive s latest.source latest.sourceEpoch = true) :
    liveClaimsOf s record latest.source latest.field latest.subkey =
      [{ latest with live := true }] := by
  have bare : claimShadowed record.claims latest = false := by
    rw [parts]
    exact not_isCovered_of_newest claimCovers_covering claimCovers_narrow newest
  have marked : (sourceIsLive s latest.source latest.sourceEpoch &&
      !claimShadowed record.claims latest) = true := by
    rw [live, bare]
    rfl
  unfold liveClaimsOf liveClaims
  conv in List.filter _ record.claims => rw [parts]
  refine (filter_map_filter_eq_singleton ?_ ?_ ?_).trans (by rw [marked])
  · exact decide_eq_true current
  · simp [live, bare]
  · intro b member picked
    rw [decide_eq_true_iff] at picked
    rw [decide_eq_false_iff_not]
    rintro ⟨alive, source, field, subkey⟩
    simp only [Bool.and_eq_true, Bool.not_eq_true'] at alive
    obtain ⟨known, unshadowed⟩ := alive
    have epoch : b.sourceEpoch = latest.sourceEpoch :=
      sourceIsLive_unique known (source ▸ live)
    have same : claimLabels.group b = claimLabels.group latest := by
      simp only [claimLabels, claimGroup]
      rw [source, epoch, field, subkey]
    have later := newest b member same
    have covered : claimShadowed record.claims b = true := by
      refine List.any_eq_true.2 ⟨latest, by simp [parts], ?_⟩
      simp only [claimCovers, decide_eq_true_eq]
      exact ⟨source.symm, epoch.symm, field.symm, subkey.symm, current.trans picked.symm,
        UInt64.lt_iff_toNat_lt.2 later⟩
    rw [covered] at unshadowed
    cases unshadowed

/-- The newest declaration of a group is the live one (source `live_declarations`). -/
lemma liveDeclarationsOf_eq {record : ModuleRecord} {front back : List CapabilityDeclaration}
    {latest : CapabilityDeclaration} (parts : record.declarations = front ++ latest :: back)
    (newest : declarationLabels.Newest latest (front ++ back))
    (current : latest.incarnation = record.incarnation)
    (live : sourceIsLive s latest.source latest.sourceEpoch = true)
    (alike : ∀ b ∈ front ++ back, b.module = latest.module ∧ b.port = latest.port) :
    liveDeclarationsOf s record latest.source latest.key latest.subkey =
      [{ latest with live := true }] := by
  have bare : declarationShadowed record.declarations latest = false := by
    have uncovered := not_isCovered_of_newest declarationCovers_covering declarationCovers_narrow
      newest
    rw [isCovered, List.any_eq_false] at uncovered
    rw [declarationShadowed, parts, List.any_eq_false]
    intro b member covered
    exact uncovered b member (of_decide_eq_true covered).1
  have marked : (sourceIsLive s latest.source latest.sourceEpoch &&
      !declarationShadowed record.declarations latest) = true := by
    rw [live, bare]
    rfl
  unfold liveDeclarationsOf liveDeclarations
  conv in List.filter _ record.declarations => rw [parts]
  refine (filter_map_filter_eq_singleton ?_ ?_ ?_).trans (by rw [marked])
  · exact decide_eq_true current
  · simp [live, bare]
  · intro b member picked
    rw [decide_eq_true_iff] at picked
    rw [decide_eq_false_iff_not]
    rintro ⟨alive, source, key, subkey⟩
    simp only [Bool.and_eq_true, Bool.not_eq_true'] at alive
    obtain ⟨known, unshadowed⟩ := alive
    have epoch : b.sourceEpoch = latest.sourceEpoch :=
      sourceIsLive_unique known (source ▸ live)
    have same : declarationLabels.group b = declarationLabels.group latest := by
      simp only [declarationLabels, declarationGroup]
      rw [source, epoch, key, subkey]
    have later := newest b member same
    obtain ⟨module, port⟩ := alike b member
    have covered : declarationShadowed record.declarations b = true := by
      refine List.any_eq_true.2 ⟨latest, by simp [parts], decide_eq_true ⟨?_, by rw [port]⟩⟩
      simp only [declarationCovers, decide_eq_true_eq]
      exact ⟨source.symm, epoch.symm, key.symm, subkey.symm, module.symm, current.trans picked.symm,
        UInt64.lt_iff_toNat_lt.2 later⟩
    rw [covered] at unshadowed
    cases unshadowed

/-- As long as the sequence counter does not wrap, the last claim a live source epoch made about an
attribute of a current incarnation is the one claim of that source marked live for it, and the
same holds for module declarations (source `live_claims`, `live_declarations`). -/
theorem last_write_wins [StdSort] (room : 1 ≤ config.maxClaimHistory) :
    (∀ w : State × List IdentityClaim,
      Run (withHistory (step config) acceptedClaims) (fun w _ => NoWrap w.1)
        (State.initial, []) w →
      ∀ uid record source epoch field subkey latest,
        w.1.modules[uid]? = some record → sourceIsLive w.1 source epoch = true →
        (w.2.filter (IdentityClaim.states uid record.incarnation source epoch field
          subkey)).getLast? = some latest →
        liveClaimsOf w.1 record source field subkey = [{ latest with live := true }]) ∧
    (∀ w : State × List CapabilityDeclaration,
      Run (withHistory (step config) acceptedDeclarations) (fun w _ => NoWrap w.1)
        (State.initial, []) w →
      ∀ uid record source epoch key subkey latest,
        w.1.modules[uid]? = some record → sourceIsLive w.1 source epoch = true →
        (w.2.filter (CapabilityDeclaration.states uid record.incarnation source epoch key
          subkey)).getLast? = some latest →
        liveDeclarationsOf w.1 record source key subkey = [{ latest with live := true }]) := by
  constructor
  · intro w reached uid record source epoch field subkey latest found live last
    obtain ⟨_, holds⟩ := holds_claims room reached
    have picked := (List.mem_filter.1 (List.mem_of_getLast? last)).2
    rw [IdentityClaim.states, decide_eq_true_iff] at picked
    obtain ⟨own, current, rfl, rfl, rfl, rfl⟩ := picked
    obtain ⟨front, back, parts, newest⟩ := holds.last_newest (pages_eq found) last (by
      intro b own' era group
      simp only [claimLabels, claimGroup, Prod.mk.injEq] at own' era group
      rw [IdentityClaim.states, decide_eq_true_iff]
      exact ⟨own', UInt32.toNat_inj.1 era, group.2.2.1, group.2.2.2, group.1, group.2.1⟩)
      own (congrArg UInt32.toNat current)
    exact liveClaimsOf_eq parts newest current live
  · intro w reached uid record source epoch key subkey latest found live last
    obtain ⟨⟨_, holds⟩, ports⟩ := holds_declarations room reached
    have member := List.mem_of_getLast? last
    have picked := (List.mem_filter.1 member).2
    rw [CapabilityDeclaration.states, decide_eq_true_iff] at picked
    obtain ⟨own, current, rfl, rfl, rfl, rfl⟩ := picked
    obtain ⟨front, back, parts, newest⟩ := holds.last_newest (pages_eq found) last (by
      intro b own' era group
      simp only [declarationLabels, declarationGroup, Prod.mk.injEq] at own' era group
      rw [CapabilityDeclaration.states, decide_eq_true_iff]
      exact ⟨own', UInt32.toNat_inj.1 era, group.2.2.1, group.2.2.2, group.1, group.2.1⟩)
      own (congrArg UInt32.toNat current)
    refine liveDeclarationsOf_eq parts newest current live fun b inside => ?_
    have kept : b ∈ record.declarations := by
      have split : record.declarations = front ++ latest :: back := parts
      rw [split]
      simp only [List.mem_append, List.mem_cons] at inside ⊢
      tauto
    obtain ⟨posted, own'⟩ := List.mem_filter.1 ((holds.posted uid _ (pages_eq found)).subset kept)
    have sameModule : b.module = uid := of_decide_eq_true own'
    exact ⟨sameModule.trans own.symm,
      (ports b posted).trans (ports latest (List.mem_filter.1 member).1).symm⟩

/-- Another statement about the serial number of a module. -/
def revisedSerial : IdentityFieldValue := ⟨.serialNumber, [], text "2"⟩

/-- Revise the serial number of the module `A` in the name of the first source. -/
def reviseSerial : Call :=
  Operation.now (.updateIdentity host firstA revisedSerial hostEvidence .autoRetry)

/-- Declare the number of lanes of the module `A` in the name of the first source. -/
def declareLanes (lanes : Int64) : Call :=
  Operation.now (.publishCapability host firstA .laneCount [] (.count lanes) hostEvidence .autoRetry)

/-- The last serial number and the last number of lanes of the module `A` are the live ones. -/
theorem last_write_wins_revised :
    (∃ w record latest, Run (withHistory (step {}) acceptedClaims) (fun w _ => NoWrap w.1)
        (State.initial, []) w ∧ w.1.modules[(1 : UInt64)]? = some record ∧
      (w.2.filter (IdentityClaim.states 1 record.incarnation 1 1 .serialNumber [])).getLast? =
        some latest ∧ latest.sequence = 4 ∧
      liveClaimsOf w.1 record 1 .serialNumber [] = [{ latest with live := true }]) ∧
    (∃ w record latest, Run (withHistory (step {}) acceptedDeclarations) (fun w _ => NoWrap w.1)
        (State.initial, []) w ∧ w.1.modules[(1 : UInt64)]? = some record ∧
      (w.2.filter (CapabilityDeclaration.states 1 record.incarnation 1 1 .laneCount
        [])).getLast? = some latest ∧ latest.sequence = 4 ∧
      liveDeclarationsOf w.1 record 1 .laneCount [] = [{ latest with live := true }]) := by
  have claims : (runGuarded (withHistory (step {}) acceptedClaims)
      (fun w _ => decide (NoWrap w.1)) [registerHost,
      registerBay bayA .ensureCurrent, stateSerial 1, reviseSerial] (State.initial, [])).any
      (fun w => sourceIsLive w.1 1 1 && w.1.modules[(1 : UInt64)]?.any fun record =>
        (w.2.filter (IdentityClaim.states 1 record.incarnation 1 1 .serialNumber [])).getLast?.any
          fun latest => latest.sequence = 4) = true := by decide +kernel
  have declarations : (runGuarded (withHistory (step {}) acceptedDeclarations)
      (fun w _ => decide (NoWrap w.1)) [registerHost,
      registerBay bayA .ensureCurrent, declareLanes 4, declareLanes 8] (State.initial, [])).any
      (fun w => sourceIsLive w.1 1 1 && w.1.modules[(1 : UInt64)]?.any fun record =>
        (w.2.filter (CapabilityDeclaration.states 1 record.incarnation 1 1 .laneCount
          [])).getLast?.any fun latest => latest.sequence = 4) = true := by decide +kernel
  constructor
  · obtain ⟨w, reached, shows⟩ := Run.exists_ofGuarded claims
    simp only [Bool.and_eq_true, Option.any_eq_true, decide_eq_true_eq] at shows
    obtain ⟨live, record, found, latest, last, fourth⟩ := shows
    have guarded : Run (withHistory (step {}) acceptedClaims) (fun w _ => NoWrap w.1)
        (State.initial, []) w := reached.mono fun w _ h => of_decide_eq_true h
    exact ⟨w, record, latest, guarded, found, last, fourth,
      (last_write_wins (by decide)).1 w guarded 1 record 1 1 .serialNumber [] latest found live last⟩
  · obtain ⟨w, reached, shows⟩ := Run.exists_ofGuarded declarations
    simp only [Bool.and_eq_true, Option.any_eq_true, decide_eq_true_eq] at shows
    obtain ⟨live, record, found, latest, last, fourth⟩ := shows
    have guarded : Run (withHistory (step {}) acceptedDeclarations) (fun w _ => NoWrap w.1)
        (State.initial, []) w := reached.mono fun w _ h => of_decide_eq_true h
    exact ⟨w, record, latest, guarded, found, last, fourth,
      (last_write_wins (by decide)).2 w guarded 1 record 1 1 .laneCount [] latest found live last⟩

/-- A source that names its instance. -/
def namedHost : SourceDescriptor := ⟨text "host", [], .synthetic, text "1"⟩

/-- Register or renew the source that names its instance. -/
def renewHost : Call := Operation.now (.registerSource namedHost .autoRetry)

/-- The first source is registered by its instance name, at its first epoch. -/
structure Renewable (s : State) : Prop where
  named : s.sourceIdByName[text "host"]? = some 1
  known : ∃ record, s.sources[(1 : UInt32)]? = some record ∧ record.id = 1 ∧ record.epoch = 1 ∧
    record.descriptor.instanceId = text "1"

section Wrap

variable [StdSort]

/-- A source that names its instance renews itself without a new epoch, and takes a sequence number
(source `Registry::register_source`, the renewal branch). -/
lemma Renewable.renew (config : RegistryConfig) (h : Renewable s) :
    ∃ s', step config s renewHost = some s' ∧ Renewable s' ∧ s'.modules = s.modules ∧
      s'.nextSequence = (nextSequence s).2.nextSequence := by
  obtain ⟨record, known, id, epoch, instanceId⟩ := h.known
  let renewed : SourceRecord := { record with
    descriptor := namedHost, generation := s.generation + 1, sequence := s.nextSequence,
    registeredWallNs := 1 }
  have body : registerSourceBody config stillClock namedHost (nextSequence s).2 (s.generation + 1)
      (nextSequence s).1 = .ok ({ (nextSequence s).2 with
        sources := s.sources.insert record.id renewed }, ⟨record.id, record.epoch,
        s.generation + 1⟩) := by
    have same : namedHost.instanceId = record.descriptor.instanceId := instanceId.symm
    have nonempty : record.descriptor.instanceId ≠ [] := by
      rw [instanceId]
      decide
    have name : (nextSequence s).2.sourceIdByName[namedHost.name]? = some 1 := h.named
    have found : (nextSequence s).2.sources[(1 : UInt32)]? = some record := known
    simp only [registerSourceBody, name, found, orRefuse, ok_bind, same, nonempty, ne_eq,
      not_false_eq_true, and_self, not_true_eq_false, false_and, refuseIf_of_not, if_true]
    rfl
  have taken : step config s renewHost = some (({ (nextSequence s).2 with
      sources := s.sources.insert record.id renewed } : State).publish (s.generation + 1)) := by
    have short : ¬ (namedHost.name = [] ∨ kMaxKeyBytes < namedHost.name.length) := by decide
    have utf8 : ¬ (isValidUtf8 namedHost.name = false ∨
        isValidUtf8 namedHost.instanceId = false) := by decide +kernel
    have bounded : ¬ (512 < namedHost.description.length ∨
        128 < namedHost.instanceId.length) := by decide
    have ran : registerSource config stillClock namedHost .autoRetry s = .ok (({ (nextSequence s).2
        with sources := s.sources.insert record.id renewed } : State).publish (s.generation + 1),
        ⟨record.id, record.epoch, s.generation + 1⟩) := by
      rw [registerSource, refuseIf_of_not short, ok_bind, refuseIf_of_not utf8, ok_bind,
        refuseIf_of_not bounded, ok_bind, mutate_eq_ok]
      exact ⟨by simp [MutationPolicy.fenced], _, body, rfl⟩
    simp only [step, Call.run, renewHost, Operation.now, ran]
    rfl
  refine ⟨_, taken, ⟨h.named, renewed, ?_, id, epoch, rfl⟩, rfl, rfl⟩
  rw [id]
  exact Std.ExtTreeMap.getElem?_insert_self

/-- A source may renew itself any number of times. -/
lemma Renewable.renewals (config : RegistryConfig) {w : State × List IdentityClaim}
    (h : Renewable w.1) :
    ∀ k, w.1.nextSequence.toNat + k < 2 ^ 64 →
      ∃ w', Run (withHistory (step config) acceptedClaims) Unguarded w w' ∧ Renewable w'.1 ∧
        w'.1.modules = w.1.modules ∧ w'.1.nextSequence.toNat = w.1.nextSequence.toNat + k
  | 0, _ => ⟨w, .start, h, rfl, rfl⟩
  | k + 1, room => by
    obtain ⟨w', reached, renewable, modules, counter⟩ := h.renewals config k (by omega)
    obtain ⟨s', taken, again, same, next⟩ := renewable.renew config
    refine ⟨(s', w'.2 ++ acceptedClaims w'.1 renewHost s'),
      .next (a := renewHost) reached trivial (withHistory_eq_some.2 ⟨taken, rfl⟩), again,
      same.trans modules, ?_⟩
    have bound : w'.1.nextSequence.toNat + 1 < 2 ^ 64 := by omega
    have noWrap : w'.1.nextSequence + 1 ≠ 0 := by
      intro full
      have zero := congrArg UInt64.toNat full
      rw [UInt64.toNat_add, UInt64.toNat_one, UInt64.toNat_zero] at zero
      omega
    have step : s'.nextSequence = w'.1.nextSequence + 1 := next.trans (if_neg noWrap)
    show s'.nextSequence.toNat = _
    rw [step, UInt64.toNat_add, UInt64.toNat_one]
    omega

/-- A source may renew itself until the sequence counter has wrapped to one (source
`next_sequence`). -/
lemma Renewable.wrap (config : RegistryConfig) {w : State × List IdentityClaim}
    (h : Renewable w.1) :
    ∃ w', Run (withHistory (step config) acceptedClaims) Unguarded w w' ∧ Renewable w'.1 ∧
      w'.1.modules = w.1.modules ∧ w'.1.nextSequence = 1 := by
  have small := w.1.nextSequence.toNat_lt
  obtain ⟨w', reached, renewable, modules, counter⟩ :=
    h.renewals config (2 ^ 64 - 1 - w.1.nextSequence.toNat) (by omega)
  obtain ⟨s', taken, again, same, next⟩ := renewable.renew config
  refine ⟨(s', w'.2 ++ acceptedClaims w'.1 renewHost s'),
    .next (a := renewHost) reached trivial (withHistory_eq_some.2 ⟨taken, rfl⟩), again,
    same.trans modules, ?_⟩
  have last : w'.1.nextSequence + 1 = 0 := by
    rw [← UInt64.toNat_inj, UInt64.toNat_add, counter, UInt64.toNat_one, UInt64.toNat_zero]
    omega
  exact next.trans (if_pos last)

/-- A history within both bounds is not trimmed (source `trim_claims`). -/
lemma trimClaims_of_short {claims : List IdentityClaim} {maxTotal maxHistory : UInt32}
    (total : claims.length ≤ maxTotal.toNat) (history : claims.length ≤ maxHistory.toNat) :
    trimClaims claims maxTotal maxHistory = .ok claims := by
  have kept (exhausted : Error) (guard : Nat) :
      eraseSuperseded claimIsSuperseded maxTotal.toNat exhausted guard claims = .ok claims := by
    cases guard <;> rw [eraseSuperseded, if_neg (Nat.not_lt.2 total)]
  have none (g : IdentityField × Bytes × SourceId × SourceEpoch) :
      excessOf claimGroup (·.sequence) maxHistory.toNat claims g = [] := by
    have members := List.length_filter_le (fun entry => decide (claimGroup entry.1 = g))
      claims.zipIdx
    rw [List.length_zipIdx] at members
    simp only [excessOf]
    rw [Nat.sub_eq_zero_of_le (members.trans history), List.take_zero]
  rw [trimClaims, kept, ok_bind, dropExcess]
  simp only [none, List.all_nil, List.filter_true]
  rw [List.zipIdx_map_fst]

/-- A valid claim about a module with a short history is added at its end (source
`Registry::update_identity`). -/
lemma step_updateIdentity_of_short (config : RegistryConfig) (clock : Clock) {authority : AuthorityToken}
    {module : ModuleHandle} {policy : MutationPolicy} {record : ModuleRecord}
    {value : IdentityFieldValue} {provenance : Provenance}
    (ready : Ready s authority module policy record) (valid : value.Valid)
    (evidence : provenance.Valid) (total : record.claims.length < config.maxClaimsPerModule.toNat)
    (history : record.claims.length < config.maxClaimHistory.toNat) :
    step config s ⟨.updateIdentity authority module value provenance policy, clock⟩ =
      some (({ (nextSequence s).2 with modules := s.modules.insert module.uid { record with
        claims := record.claims ++ [updatedClaim clock authority record value provenance s] } }
        : State).publish (s.generation + 1)) := by
  have trim : trimClaims
      (record.claims ++ [updatedClaim clock authority record value provenance s])
      config.maxClaimsPerModule config.maxClaimHistory =
      .ok (record.claims ++ [updatedClaim clock authority record value provenance s]) :=
    trimClaims_of_short (by simpa [Nat.succ_le_iff] using total)
      (by simpa [Nat.succ_le_iff] using history)
  have body : updateIdentityBody config clock authority module value provenance (nextSequence s).2
      (s.generation + 1) (nextSequence s).1 = .ok ({ (nextSequence s).2 with
        modules := s.modules.insert module.uid { record with claims :=
          record.claims ++ [updatedClaim clock authority record value provenance s] } }, ()) := by
    rw [updateIdentityBody, ready.currentModule, ok_bind]
    exact bind_eq_ok.2 ⟨_, trim, rfl⟩
  have ran : updateIdentity config clock authority module value provenance policy s =
      .ok (({ (nextSequence s).2 with modules := s.modules.insert module.uid { record with claims :=
        record.claims ++ [updatedClaim clock authority record value provenance s] } }
        : State).publish (s.generation + 1), ()) := by
    rw [updateIdentity, (validateIdentityValue_eq_ok (u := ())).2 valid, ok_bind,
      (validateProvenance_eq_ok (u := ())).2 evidence, ok_bind, mutate_eq_ok]
    exact ⟨ready.fence, _, body, rfl⟩
  simp only [step, Call.run, ran]
  rfl

end Wrap

/-- The first source stated the serial number of the module `A` once, as the third call of a
run. -/
structure SerialClaim (record : ModuleRecord) (claim : IdentityClaim) : Prop where
  own : record.uid = 1
  first : record.incarnation = 1
  claims : record.claims = [claim]
  source : claim.source = 1
  epoch : claim.sourceEpoch = 1
  field : claim.field = .serialNumber
  subkey : claim.subkey = []
  incarnation : claim.incarnation = 1
  sequence : claim.sequence = 3

/-- A state that shows this claim. -/
def showsSerial (s : State) : Bool :=
  decide (s.sourceIdByName[text "host"]? = some 1) &&
  (s.sources[(1 : UInt32)]?.any fun record =>
    record.id = 1 && record.epoch = 1 && record.descriptor.instanceId = text "1") &&
  s.modules[(1 : UInt64)]?.any fun record =>
    record.uid = 1 && record.incarnation = 1 &&
    match record.claims with
    | [claim] => claim.source = 1 && claim.sourceEpoch = 1 && claim.field = .serialNumber &&
      claim.subkey = [] && claim.incarnation = 1 && claim.sequence = 3
    | _ => false

/-- A state that shows the claim holds it. -/
lemma of_showsSerial (h : showsSerial s = true) :
    Renewable s ∧ ∃ record claim, s.modules[(1 : UInt64)]? = some record ∧
      SerialClaim record claim := by
  simp only [showsSerial, Bool.and_eq_true, Option.any_eq_true, decide_eq_true_eq] at h
  obtain ⟨⟨named, source, known, ⟨id, epoch⟩, instanceId⟩, record, found, ⟨own, first⟩, once⟩ := h
  refine ⟨⟨named, source, known, id, epoch, instanceId⟩, record, ?_⟩
  split at once
  · rename_i claim claims
    simp only [Bool.and_eq_true, decide_eq_true_eq] at once
    obtain ⟨⟨⟨⟨⟨ofSource, ofEpoch⟩, field⟩, subkey⟩, incarnation⟩, third⟩ := once
    exact ⟨claim, found, own, first, claims, ofSource, ofEpoch, field, subkey, incarnation, third⟩
  · cases once

/-- A claim that is accepted with a smaller sequence number than an earlier one is marked dead
(source `claim_shadowed`). -/
lemma SerialClaim.revised {record : ModuleRecord} {claim : IdentityClaim}
    (h : SerialClaim record claim) (found : s.modules[(1 : UInt64)]? = some record)
    (live : sourceIsLive s 1 1 = true) (early : s.nextSequence = 1) :
    ∃ s' record' latest, step {} s reviseSerial = some s' ∧
      s'.modules[(1 : UInt64)]? = some record' ∧ sourceIsLive s' 1 1 = true ∧
      acceptedClaims s reviseSerial s' = [latest] ∧
      latest.states 1 record'.incarnation 1 1 .serialNumber [] = true ∧
      liveClaimsOf s' record' 1 .serialNumber [] ≠ [{ latest with live := true }] := by
  have ready : Ready s host firstA .autoRetry record :=
    ⟨requireAuthority_eq_ok.2 ⟨by decide, live⟩, found, h.first, by simp [MutationPolicy.fenced]⟩
  have valid : revisedSerial.Valid := validateIdentityValue_eq_ok.1
    (show validateIdentityValue revisedSerial = .ok () by decide +kernel)
  have one : record.claims.length = 1 := by rw [h.claims, List.length_singleton]
  have taken := step_updateIdentity_of_short {} stillClock ready valid
    hostEvidence_valid (by rw [one]; decide) (by rw [one]; decide)
  let latest := updatedClaim stillClock host record revisedSerial hostEvidence s
  let record' : ModuleRecord := { record with claims := record.claims ++ [latest] }
  let s' := ({ (nextSequence s).2 with modules := s.modules.insert 1 record' } : State).publish
    (s.generation + 1)
  have parts : record'.claims = [] ++ claim :: [latest] := by simp [record', h.claims]
  have newest : claimLabels.Newest claim ([] ++ [latest]) := by
    intro b member _
    obtain rfl := List.mem_singleton.1 member
    show s.nextSequence.toNat < claim.sequence.toNat
    rw [early, h.sequence]
    decide
  have alive := liveClaimsOf_eq (s := s') parts newest (h.incarnation.trans h.first.symm)
    (by rw [h.source, h.epoch]; exact live)
  rw [h.source, h.field, h.subkey] at alive
  refine ⟨s', record', latest, taken, Std.ExtTreeMap.getElem?_insert_self, live, ?_, ?_, ?_⟩
  · simp only [acceptedClaims, reviseSerial, Operation.now, firstA, found]
    rfl
  · simp [IdentityClaim.states, latest, record', updatedClaim, identityClaim, h.own, host,
      revisedSerial]
  · rw [alive]
    intro equal
    have sequences := congrArg IdentityClaim.sequence (List.cons.inj equal).1
    have last : latest.sequence = 1 := early
    simp only [h.sequence, last] at sequences
    cases sequences

/-- After the sequence counter has wrapped, the claim accepted last is marked dead and the one
before it stays live (source `next_sequence`). -/
theorem claim_after_wrap_is_dead :
    ∃ w record latest, Run (withHistory (step {}) acceptedClaims) Unguarded (State.initial, []) w ∧
      w.1.modules[(1 : UInt64)]? = some record ∧ sourceIsLive w.1 1 1 = true ∧
      (w.2.filter (IdentityClaim.states 1 record.incarnation 1 1 .serialNumber [])).getLast? =
        some latest ∧
      liveClaimsOf w.1 record 1 .serialNumber [] ≠ [{ latest with live := true }] := by
  have stated : (runActions (withHistory (step {}) acceptedClaims) [renewHost,
      registerBay bayA .ensureCurrent, stateSerial 1] (State.initial, [])).any
      (showsSerial ·.1) = true := by decide +kernel
  obtain ⟨w, reached, shows⟩ := Run.exists_ofActions stated
  obtain ⟨renewable, record, claim, found, serial⟩ := of_showsSerial shows
  obtain ⟨w', wrapped, renewed, same, one⟩ := renewable.wrap {}
  obtain ⟨source, known, _, epoch, _⟩ := renewed.known
  have live : sourceIsLive w'.1 1 1 = true := by
    rw [sourceIsLive, known]
    exact decide_eq_true epoch
  obtain ⟨s', record', latest, taken, found', live', accepted, states, dead⟩ :=
    serial.revised (by rw [same, found]) live one
  refine ⟨(s', w'.2 ++ acceptedClaims w'.1 reviseSerial s'), record', latest,
    .next (a := reviseSerial) (reached.trans wrapped) trivial
      (withHistory_eq_some.2 ⟨taken, rfl⟩), found', live', ?_, dead⟩
  rw [accepted, List.filter_append, List.filter_cons_of_pos states, List.filter_nil,
    List.getLast?_concat]

end TransceiverRegistry

import TransceiverRegistry.Registry.Statements
import TransceiverRegistry.Registry.TableStep

/-!
# Ids, indexes and the origins of evidence

The invariant behind supersession and fencing: the ids are those that the counters issued, the two
indexes find exactly the records by name and by key, and every stored statement comes from a source
that is still registered, from an epoch, an incarnation, a generation and a sequence number of the
past. Every step keeps it while the counters have a next value.
-/

namespace TransceiverRegistry

open Lib

/-- Where a stored statement comes from (source `IdentityClaim`, `CapabilityDeclaration`,
`HealthSample`). -/
structure Origin where
  source : SourceId
  epoch : SourceEpoch
  incarnation : IncarnationId
  generation : Generation
  sequence : Sequence

/-- The origin of a claim. -/
def IdentityClaim.origin (claim : IdentityClaim) : Origin :=
  ⟨claim.source, claim.sourceEpoch, claim.incarnation, claim.generation, claim.sequence⟩

/-- The origin of a declaration. -/
def CapabilityDeclaration.origin (declaration : CapabilityDeclaration) : Origin :=
  ⟨declaration.source, declaration.sourceEpoch, declaration.incarnation, declaration.generation,
    declaration.sequence⟩

/-- The origin of a sample. -/
def HealthSample.origin (sample : HealthSample) : Origin :=
  ⟨sample.source, sample.sourceEpoch, sample.incarnation, sample.generation, sample.sequence⟩

/-- The origins of the claims, the declarations and the samples of a module. -/
def ModuleRecord.origins (record : ModuleRecord) : List Origin :=
  record.claims.map IdentityClaim.origin ++ (record.declarations.map CapabilityDeclaration.origin ++
    record.samples.map HealthSample.origin)

/-- An origin names an existing source with an epoch not above its current one, and a sequence number
and a generation that were used. -/
structure Origin.Traced (s : State) (o : Origin) : Prop where
  known : ∃ record, s.sources[o.source]? = some record ∧ o.epoch ≤ record.epoch
  sequence : o.sequence < s.nextSequence
  generation : o.generation ≤ s.generation

/-- The ids are below their counters, and the indexes find exactly the records by name and by key
(source `State`). -/
structure Identified (s : State) : Prop where
  sources : Issued SourceRecord.id UInt32.toNat s.nextSourceId.toNat s.sources
  names : Indexed SourceRecord.name s.sourceIdByName s.sources
  modules : Issued ModuleRecord.uid UInt64.toNat s.nextModuleUid.toNat s.modules
  keys : Indexed (fun record : ModuleRecord => record.key.str) s.moduleUidByKey s.modules
  rules : Issued CompatRuleRecord.id UInt32.toNat s.nextRuleId.toNat s.rules

/-- The tables are identified, and every stored statement has an origin in the past (source
`State`). -/
structure Consistent (s : State) : Prop extends Identified s where
  evidence : ∀ (uid : ModuleUid) record, s.modules[uid]? = some record →
    ∀ o ∈ record.origins, o.Traced s ∧ o.incarnation ≤ record.incarnation
  portEvidence : ∀ (key : Bytes) record, s.ports[key]? = some record →
    ∀ declaration ∈ record.declarations, declaration.origin.Traced s

/-- No id counter is ahead of the sequence counter: an operation issues at most one id. -/
structure Paced (s : State) : Prop where
  source : s.nextSourceId.toNat ≤ s.nextSequence.toNat
  module : s.nextModuleUid.toNat ≤ s.nextSequence.toNat
  rule : s.nextRuleId.toNat ≤ s.nextSequence.toNat

/-- The sequence counter and the generation have a next value. -/
def advances (s : State) : Bool := NoWrap s && s.generation ≠ 0xFFFFFFFFFFFFFFFF

section Origins

variable {s : State} {o : Origin} {record record' located : ModuleRecord} {uid : ModuleUid}

/-- The origins of a module are those of its claims, of its declarations and of its samples. -/
lemma mem_origins : o ∈ record.origins ↔ (∃ claim ∈ record.claims, claim.origin = o) ∨
    (∃ declaration ∈ record.declarations, declaration.origin = o) ∨
    ∃ sample ∈ record.samples, sample.origin = o := by
  simp only [ModuleRecord.origins, List.mem_append, List.mem_map]

/-- A record with fewer statements has fewer origins. -/
lemma origins_mono (claims : record'.claims ⊆ record.claims)
    (declarations : record'.declarations ⊆ record.declarations)
    (samples : record'.samples ⊆ record.samples) : record'.origins ⊆ record.origins := by
  intro o member
  rw [mem_origins] at member ⊢
  obtain ⟨c, inside, rfl⟩ | ⟨d, inside, rfl⟩ | ⟨h, inside, rfl⟩ := member
  · exact .inl ⟨c, claims inside, rfl⟩
  · exact .inr (.inl ⟨d, declarations inside, rfl⟩)
  · exact .inr (.inr ⟨h, samples inside, rfl⟩)

/-- Records with the same evidence have the same origins. -/
lemma SameEvidence.origins (same : SameEvidence record record') :
    record'.origins = record.origins := by
  rw [ModuleRecord.origins, same.claims, same.declarations, same.samples]
  rfl

/-- Claims that are added to a module add their origins. -/
lemma origins_claims {claims added : List IdentityClaim} (kept : claims ⊆ record.claims ++ added)
    (member : o ∈ ({ record with claims } : ModuleRecord).origins) :
    o ∈ record.origins ∨ ∃ claim ∈ added, claim.origin = o := by
  rw [mem_origins] at member
  obtain ⟨c, inside, own⟩ | others := member
  · obtain old | new := List.mem_append.1 (kept inside)
    · exact .inl (mem_origins.2 (.inl ⟨c, old, own⟩))
    · exact .inr ⟨c, new, own⟩
  · exact .inl (mem_origins.2 (.inr others))

/-- Declarations that are added to a module add their origins. -/
lemma origins_declarations {declarations added : List CapabilityDeclaration}
    (kept : declarations ⊆ record.declarations ++ added)
    (member : o ∈ ({ record with declarations } : ModuleRecord).origins) :
    o ∈ record.origins ∨ ∃ declaration ∈ added, declaration.origin = o := by
  rw [mem_origins] at member
  obtain claims | ⟨d, inside, own⟩ | samples := member
  · exact .inl (mem_origins.2 (.inl claims))
  · obtain old | new := List.mem_append.1 (kept inside)
    · exact .inl (mem_origins.2 (.inr (.inl ⟨d, old, own⟩)))
    · exact .inr ⟨d, new, own⟩
  · exact .inl (mem_origins.2 (.inr (.inr samples)))

/-- Samples that are added to a module add their origins. -/
lemma origins_samples {samples added : List HealthSample} {counts latches}
    (kept : samples ⊆ record.samples ++ added)
    (member : o ∈ ({ record with samples, seriesCounts := counts, latches } : ModuleRecord).origins) :
    o ∈ record.origins ∨ ∃ sample ∈ added, sample.origin = o := by
  rw [mem_origins] at member
  obtain claims | declarations | ⟨h, inside, own⟩ := member
  · exact .inl (mem_origins.2 (.inl claims))
  · exact .inl (mem_origins.2 (.inr (.inl declarations)))
  · obtain old | new := List.mem_append.1 (kept inside)
    · exact .inl (mem_origins.2 (.inr (.inr ⟨h, old, own⟩)))
    · exact .inr ⟨h, new, own⟩

/-- What is stated by an operation comes from a live source, and has the next generation and the
sequence number that was reserved (source `RegistryImpl::mutate`). -/
structure Origin.Present (s : State) (o : Origin) : Prop where
  live : sourceIsLive s o.source o.epoch = true
  sequence : o.sequence = s.nextSequence
  generation : o.generation = s.generation + 1

/-- The origin was one of the module in an earlier incarnation or this one. -/
def Origin.Earlier (s : State) (uid : ModuleUid) (incarnation : IncarnationId) (o : Origin) : Prop :=
  ∃ record, s.modules[uid]? = some record ∧ o ∈ record.origins ∧ record.incarnation ≤ incarnation

/-- An origin of a module that is located is one it had (source `Registry::register_module`, the
lookup). -/
lemma Located.origins (locate : Located s.modules uid located) (member : o ∈ located.origins) :
    o.Earlier s uid located.incarnation := by
  cases locate with
  | fresh absent own first claims declarations samples =>
    rw [ModuleRecord.origins, claims, declarations, samples] at member
    exact (List.not_mem_nil member).elim
  | @current record found same =>
    rw [same.origins] at member
    exact ⟨record, found, member, same.incarnation ▸ UInt32.le_refl _⟩
  | @renewed record found room next latches same =>
    rw [same.origins] at member
    refine ⟨record, found, member, ?_⟩
    have last : record.incarnation.toNat ≠ 2 ^ 32 - 1 := fun full => room (UInt32.toNat_inj.1 full)
    have := record.incarnation.toNat_lt
    rw [next, UInt32.le_iff_toNat_le, UInt32.toNat_add, UInt32.toNat_one]
    omega

variable [StdSort] {config : RegistryConfig} {s' : State} {clock : Clock} {operation : Operation}

/-- An origin of a module after a step is one it had, or that of what the step states (source
`RegistryImpl::mutate`). -/
lemma ModuleStep.origins (taken : ModuleStep config s s' clock operation)
    (found : s'.modules[uid]? = some record) (member : o ∈ record.origins) :
    o.Earlier s uid record.incarnation ∨ (o.Present s ∧ o.incarnation = record.incarnation) := by
  have stays (found : s.modules[uid]? = some record) : o.Earlier s uid record.incarnation :=
    ⟨record, found, member, UInt32.le_refl _⟩
  cases taken with
  | stay quiet written =>
    rw [written] at found
    exact .inl (stays found)
  | move quiet before same written =>
    rw [written] at found
    obtain ⟨rfl, rfl⟩ | ⟨_, found⟩ := getElem?_insert_iff.1 found
    · rw [same.origins] at member
      exact .inl ⟨_, before, member, same.incarnation ▸ UInt32.le_refl _⟩
    · exact .inl (stays found)
  | @registerModule registration authority _ located _ _ live named locate trim same written =>
    rw [written] at found
    obtain ⟨rfl, rfl⟩ | ⟨_, found⟩ := getElem?_insert_iff.1 found
    · rw [same.origins] at member
      obtain old | ⟨claim, new, rfl⟩ := origins_claims (trimClaims_sublist trim).subset member
      · rw [same.incarnation]
        exact .inl (locate.origins old)
      · obtain ⟨value, _, rfl⟩ := List.mem_map.1 new
        exact .inr ⟨⟨live, rfl, rfl⟩, same.incarnation.symm⟩
    · exact .inl (stays found)
  | @updateIdentity _ _ _ _ _ before _ live known trim written =>
    rw [written] at found
    obtain ⟨rfl, rfl⟩ | ⟨_, found⟩ := getElem?_insert_iff.1 found
    · obtain old | ⟨claim, new, rfl⟩ := origins_claims (trimClaims_sublist trim).subset member
      · exact .inl ⟨before, known, old, UInt32.le_refl _⟩
      · rw [List.mem_singleton.1 new]
        exact .inr ⟨⟨live, rfl, rfl⟩, rfl⟩
    · exact .inl (stays found)
  | @publishCapability _ _ _ _ _ _ _ before _ live known trim written =>
    rw [written] at found
    obtain ⟨rfl, rfl⟩ | ⟨_, found⟩ := getElem?_insert_iff.1 found
    · obtain old | ⟨declaration, new, rfl⟩ :=
        origins_declarations (trimDeclarations_sublist trim).subset member
      · exact .inl ⟨before, known, old, UInt32.le_refl _⟩
      · rw [List.mem_singleton.1 new]
        exact .inr ⟨⟨live, rfl, rfl⟩, rfl⟩
    · exact .inl (stays found)
  | @ingestHealth _ _ _ _ before _ _ _ live known current stores newer latched trims written =>
    rw [written] at found
    obtain ⟨rfl, rfl⟩ | ⟨_, found⟩ := getElem?_insert_iff.1 found
    · subst trims
      obtain old | ⟨sample, new, rfl⟩ := origins_samples (trimSamples_sublist config _).subset member
      · exact .inl ⟨before, known, old, UInt32.le_refl _⟩
      · rw [List.mem_singleton.1 new, stores]
        exact .inr ⟨⟨live, rfl, rfl⟩, rfl⟩
    · exact .inl (stays found)

end Origins

section Initial

/-- A registry in which nothing is registered is consistent, at every generation. -/
lemma Consistent.blank {generation : Generation} :
    Consistent { State.initial with generation } where
  sources := Issued.empty
  names := Indexed.empty
  modules := Issued.empty
  keys := Indexed.empty
  rules := Issued.empty
  evidence uid record found := by simp [State.initial] at found
  portEvidence key record found := by simp [State.initial] at found

/-- The counters of a fresh registry are at one. -/
lemma Paced.blank {generation : Generation} : Paced { State.initial with generation } :=
  ⟨Nat.le_refl _, Nat.le_refl _, Nat.le_refl _⟩

end Initial

section Step

variable [StdSort] {config : RegistryConfig} {s s' next : State} {generation : Generation}
  {sequence : Sequence} {call : Call} {o : Origin}

omit [StdSort] in
/-- A number that is not the last one of 64 bits has a next one. -/
lemma toNat_next {n : UInt64} (room : n.toNat + 1 < 2 ^ 64) : (n + 1).toNat = n.toNat + 1 := by
  rw [UInt64.toNat_add, UInt64.toNat_one]
  exact Nat.mod_eq_of_lt room

/-- What an operation does to the tables keeps the sources, and no epoch goes back
(source `Registry::register_source`). -/
lemma TableStep.keepsSource (taken : TableStep config s generation sequence next)
    (identified : Identified s) {id : SourceId} {record : SourceRecord}
    (found : s.sources[id]? = some record) :
    ∃ record', next.sources[id]? = some record' ∧ record.epoch ≤ record'.epoch := by
  cases taken with
  | @renewSource id' before renewed known same later =>
    by_cases here : before.id = id
    · have own := identified.sources.keyed id' before known
      rw [← own, here, found] at known
      obtain rfl := Option.some.inj known
      exact ⟨renewed, getElem?_insert_iff.2 (.inl ⟨here, rfl⟩), later⟩
    · exact ⟨record, getElem?_insert_iff.2 (.inr ⟨here, found⟩), UInt32.le_refl _⟩
  | @addSource added unnamed room ids own =>
    have number : s.nextSourceId.toUInt32.toNat = s.nextSourceId.toNat := by
      have small : s.nextSourceId.toNat < 0xFFFFFFFF := ids
      rw [UInt64.toNat_toUInt32]
      omega
    have other : s.nextSourceId.toUInt32 ≠ id := by
      rintro rfl
      exact identified.sources.fresh number (mem_of_getElem? found)
    exact ⟨record, getElem?_insert_iff.2 (.inr ⟨other, found⟩), UInt32.le_refl _⟩
  | addModule => exact ⟨record, found, UInt32.le_refl _⟩
  | setModule => exact ⟨record, found, UInt32.le_refl _⟩
  | slots => exact ⟨record, found, UInt32.le_refl _⟩
  | port => exact ⟨record, found, UInt32.le_refl _⟩
  | threshold => exact ⟨record, found, UInt32.le_refl _⟩
  | addRule => exact ⟨record, found, UInt32.le_refl _⟩
  | setRule => exact ⟨record, found, UInt32.le_refl _⟩

/-- What an operation does to the tables keeps them identified while the counters have a next
value. -/
lemma Identified.tableStep (identified : Identified s)
    (modulesLeft : s.nextModuleUid.toNat + 1 < 2 ^ 64) (rulesLeft : s.nextRuleId.toNat + 1 < 2 ^ 64)
    (taken : TableStep config s generation sequence next) : Identified next := by
  cases taken with
  | @renewSource id record renewed found same later =>
    have own := identified.sources.keyed id record found
    have known : record.id ∈ s.sources := own ▸ mem_of_getElem? found
    refine { identified with sources := ?_, names := ?_ }
    · exact identified.sources.insert le_rfl same.1 (identified.sources.below _ known)
    · subst own
      exact identified.names.replace found same.2
  | @addSource record unnamed room ids own =>
    have small : s.nextSourceId.toNat < 0xFFFFFFFF := ids
    have number : s.nextSourceId.toUInt32.toNat = s.nextSourceId.toNat := by
      rw [UInt64.toNat_toUInt32]
      omega
    have after := toNat_next (n := s.nextSourceId) (by omega)
    refine { identified with sources := ?_, names := ?_ }
    · refine identified.sources.insert ?_ own ?_
      · exact after ▸ Nat.le_succ _
      · rw [number, after]
        exact Nat.lt_succ_self _
    · exact identified.names.add (identified.sources.fresh number) rfl unnamed
  | @addModule blank record unnamed room own empty rewrites history =>
    have after := toNat_next modulesLeft
    refine { identified with modules := ?_, keys := ?_ }
    · refine identified.modules.insert ?_ own ?_
      · exact after ▸ Nat.le_succ _
      · rw [after]
        exact Nat.lt_succ_self _
    · exact identified.keys.add (identified.modules.fresh rfl) rfl unnamed
  | @setModule uid record record' attachments dropped found rewrites =>
    refine { identified with modules := ?_, keys := ?_ }
    · exact identified.modules.insert le_rfl
        (rewrites.uid.trans (identified.modules.keyed uid record found))
        (identified.modules.below uid (mem_of_getElem? found))
    · exact identified.keys.replace found (by rw [rewrites.key])
  | slots => exact { identified with }
  | port => exact { identified with }
  | threshold => exact { identified with }
  | addRule room own =>
    have after := toNat_next rulesLeft
    refine { identified with rules := identified.rules.insert ?_ own ?_ }
    · exact after ▸ Nat.le_succ _
    · rw [after, UInt64.toNat_toUInt32]
      exact Nat.lt_succ_of_le (Nat.mod_le _ _)
  | setRule found same =>
    refine { identified with rules := ?_ }
    exact identified.rules.insert le_rfl (same.trans (identified.rules.keyed _ _ found))
      (identified.rules.below _ (mem_of_getElem? found))

/-- An operation issues at most one id of every kind. -/
lemma TableStep.counters (taken : TableStep config s generation sequence next) :
    next.nextSourceId.toNat ≤ s.nextSourceId.toNat + 1 ∧
    next.nextModuleUid.toNat ≤ s.nextModuleUid.toNat + 1 ∧
    next.nextRuleId.toNat ≤ s.nextRuleId.toNat + 1 := by
  have issued (n : UInt64) : (n + 1).toNat ≤ n.toNat + 1 := by
    rw [UInt64.toNat_add, UInt64.toNat_one]
    exact Nat.mod_le _ _
  have kept (n : UInt64) : n.toNat ≤ n.toNat + 1 := Nat.le_succ _
  cases taken with
  | renewSource => exact ⟨kept _, kept _, kept _⟩
  | addSource => exact ⟨issued _, kept _, kept _⟩
  | addModule => exact ⟨kept _, issued _, kept _⟩
  | setModule => exact ⟨kept _, kept _, kept _⟩
  | slots => exact ⟨kept _, kept _, kept _⟩
  | port => exact ⟨kept _, kept _, kept _⟩
  | threshold => exact ⟨kept _, kept _, kept _⟩
  | addRule => exact ⟨kept _, kept _, issued _⟩
  | setRule => exact ⟨kept _, kept _, kept _⟩

/-- What a declaration of a port after an operation was before, or is now
(source `Registry::publish_port_capability`). -/
lemma TableStep.portOrigins (taken : TableStep config s (generation + 1) sequence next)
    {key : Bytes} {record : PortRecord} (found : next.ports[key]? = some record)
    {declaration : CapabilityDeclaration} (member : declaration ∈ record.declarations) :
    (∃ before : PortRecord, s.ports[key]? = some before ∧ declaration ∈ before.declarations) ∨
      (sourceIsLive s declaration.source declaration.sourceEpoch = true ∧
        declaration.sequence = sequence ∧ declaration.generation = generation + 1) := by
  cases taken with
  | @port _ _ _ _ _ _ _ _ _ before live located kept trim =>
    obtain ⟨here, rfl⟩ | ⟨_, found⟩ := getElem?_insert_iff.1 found
    · obtain old | new := List.mem_append.1 ((eraseSuperseded_sublist trim).subset member)
      · obtain known | ⟨_, _, _, none⟩ := located
        · exact .inl ⟨before, here ▸ known, kept.subset old⟩
        · rw [none] at kept
          exact (List.not_mem_nil (kept.subset old)).elim
      · rw [List.mem_singleton.1 new]
        exact .inr ⟨live, rfl, rfl⟩
    · exact .inl ⟨record, found, member⟩
  | renewSource => exact .inl ⟨record, found, member⟩
  | addSource => exact .inl ⟨record, found, member⟩
  | addModule => exact .inl ⟨record, found, member⟩
  | setModule => exact .inl ⟨record, found, member⟩
  | slots => exact .inl ⟨record, found, member⟩
  | threshold => exact .inl ⟨record, found, member⟩
  | addRule => exact .inl ⟨record, found, member⟩
  | setRule => exact .inl ⟨record, found, member⟩

/-- What a step does to the counters when both of them have a next value
(source `RegistryImpl::mutate`). -/
lemma step_advances (room : advances s = true) (taken : step config s call = some s') :
    s.nextSequence.toNat + 1 < 2 ^ 64 ∧ s'.nextSequence.toNat = s.nextSequence.toNat + 1 ∧
      s'.generation = s.generation + 1 ∧ s.generation ≤ s.generation + 1 := by
  simp only [advances, Bool.and_eq_true, decide_eq_true_eq] at room
  obtain ⟨noWrap, last⟩ := room
  have later := noWrap.grows taken
  have bound := s'.nextSequence.toNat_lt
  have next : s'.nextSequence = s.nextSequence + 1 := by
    rw [step_nextSequence taken]
    exact if_neg noWrap
  have small : s.nextSequence.toNat + 1 < 2 ^ 64 := by omega
  obtain ⟨_, _, _, rfl⟩ := step_eq_some taken
  exact ⟨small, next ▸ toNat_next small, rfl, UInt64.le_of_lt (lt_next last)⟩

/-- The counters keep pace (source `RegistryImpl::mutate`). -/
lemma Paced.step (paced : Paced s) (room : advances s = true)
    (taken : step config s call = some s') : Paced s' := by
  obtain ⟨_, counter, _, _⟩ := step_advances room taken
  obtain ⟨next, written, rfl⟩ := step_tableStep taken
  obtain ⟨sources, modules, rules⟩ := written.counters
  constructor
  · rw [counter]
    exact sources.trans (Nat.succ_le_succ paced.source)
  · rw [counter]
    exact modules.trans (Nat.succ_le_succ paced.module)
  · rw [counter]
    exact rules.trans (Nat.succ_le_succ paced.rule)

/-- A step keeps the tables identified while the counters have a next value
(source `RegistryImpl::mutate`). -/
lemma Identified.step (identified : Identified s) (paced : Paced s) (room : advances s = true)
    (taken : step config s call = some s') : Identified s' := by
  obtain ⟨small, _, _, _⟩ := step_advances room taken
  obtain ⟨next, written, rfl⟩ := step_tableStep taken
  have kept : Identified next := Identified.tableStep (s := (nextSequence s).2) { identified with }
    ((Nat.succ_le_succ paced.module).trans_lt small) ((Nat.succ_le_succ paced.rule).trans_lt small)
    written
  exact { kept with }

/-- An origin in the past stays in the past. -/
lemma Origin.Traced.step (traced : o.Traced s) (identified : Identified s)
    (room : advances s = true) (taken : step config s call = some s') : o.Traced s' := by
  obtain ⟨_, counter, generation, later⟩ := step_advances room taken
  obtain ⟨record, found, epoch⟩ := traced.known
  obtain ⟨next, written, rfl⟩ := step_tableStep taken
  obtain ⟨record', found', epoch'⟩ :=
    TableStep.keepsSource (s := (nextSequence s).2) written { identified with } found
  refine ⟨⟨record', found', UInt32.le_trans epoch epoch'⟩, ?_, ?_⟩
  · have before := UInt64.lt_iff_toNat_lt.1 traced.sequence
    rw [UInt64.lt_iff_toNat_lt, counter]
    omega
  · rw [generation]
    exact UInt64.le_trans traced.generation later

/-- What an operation states is in the past after it. -/
lemma Origin.Present.step (present : o.Present s) (identified : Identified s)
    (room : advances s = true) (taken : step config s call = some s') : o.Traced s' := by
  obtain ⟨_, counter, generation, _⟩ := step_advances room taken
  obtain ⟨record, found, epoch⟩ : ∃ record, s.sources[o.source]? = some record ∧
      record.epoch = o.epoch := by
    have live := present.live
    rw [sourceIsLive] at live
    split at live
    · rename_i record found
      exact ⟨record, found, of_decide_eq_true live⟩
    · cases live
  obtain ⟨next, written, rfl⟩ := step_tableStep taken
  obtain ⟨record', found', later⟩ :=
    TableStep.keepsSource (s := (nextSequence s).2) written { identified with } found
  refine ⟨⟨record', found', epoch ▸ later⟩, ?_, ?_⟩
  · rw [UInt64.lt_iff_toNat_lt, counter, present.sequence]
    exact Nat.lt_succ_self _
  · rw [generation, present.generation]
    exact UInt64.le_refl _

/-- A step keeps a registry consistent while the counters have a next value
(source `RegistryImpl::mutate`). -/
lemma Consistent.step (consistent : Consistent s) (paced : Paced s) (room : advances s = true)
    (taken : step config s call = some s') : Consistent s' := by
  have identified := consistent.toIdentified
  refine { identified.step paced room taken with evidence := ?_, portEvidence := ?_ }
  · intro uid record found o member
    have does := moduleStep_of_fresh (identified.modules.fresh rfl) taken
    obtain ⟨before, known, old, grown⟩ | ⟨present, own⟩ := does.origins found member
    · obtain ⟨traced, earlier⟩ := consistent.evidence uid before known o old
      exact ⟨traced.step identified room taken, UInt32.le_trans earlier grown⟩
    · exact ⟨present.step identified room taken, own ▸ UInt32.le_refl _⟩
  · intro key record found declaration member
    obtain ⟨next, written, state⟩ := step_tableStep taken
    have found : next.ports[key]? = some record := by
      rw [state] at found
      exact found
    obtain ⟨before, known, old⟩ | ⟨live, sequence, generation⟩ := written.portOrigins found member
    · exact (consistent.portEvidence key before known declaration old).step identified room taken
    · have present : declaration.origin.Present s := ⟨live, sequence, generation⟩
      exact present.step identified room taken

end Step

end TransceiverRegistry

import TransceiverRegistry.Registry.Consistency
import TransceiverRegistry.Registry.Fencing
import TransceiverRegistry.Registry.LastWrite

/-!
# Publishing in order

What a list of publications about one module leaves of its declarations: those it had and one for
each publication, cut by the trims. The declarations of a module are told apart by their sequence
numbers, so the last declaration of a source about an attribute survives every cut, and the live
declarations are the ones that stood before, without the revised ones, followed by the published
ones.
-/

namespace TransceiverRegistry

open Lib

/-- The declarations of a module are about it, told apart by their sequence numbers, and none is of
a later incarnation or of an earlier one than an older declaration. -/
structure ModuleRecord.Dated (record : ModuleRecord) : Prop where
  dated : declarationLabels.Dated record.declarations
  about : ∀ d ∈ record.declarations, d.module = record.uid ∧ d.port = .none
  past : ∀ d ∈ record.declarations, d.incarnation ≤ record.incarnation

/-- The declarations of every module are told apart (source `ModuleRecord::declarations`). -/
def DatedModules (s : State) : Prop :=
  ∀ (uid : ModuleUid) record, s.modules[uid]? = some record → record.Dated

section Dated

variable {config : RegistryConfig} {s s' : State} {record : ModuleRecord}

/-- A module without declarations is dated. -/
lemma ModuleRecord.Dated.none (none : record.declarations = []) : record.Dated where
  dated := by
    rw [none]
    exact ⟨List.Pairwise.nil, fun a member => (List.not_mem_nil member).elim⟩
  about d member := by
    rw [none] at member
    exact (List.not_mem_nil member).elim
  past d member := by
    rw [none] at member
    exact (List.not_mem_nil member).elim

/-- A module with a part of the declarations, at the same incarnation or a later one. -/
lemma ModuleRecord.Dated.mono {record' : ModuleRecord} (dated : record.Dated)
    (fewer : record'.declarations.Subperm record.declarations) (uid : record'.uid = record.uid)
    (incarnation : record.incarnation ≤ record'.incarnation) : record'.Dated where
  dated := dated.dated.mono fewer
  about d member := uid ▸ dated.about d (fewer.subset member)
  past d member := UInt32.le_trans (dated.past d (fewer.subset member)) incarnation

/-- The same declarations about the same incarnation. -/
lemma ModuleRecord.Dated.same {record' : ModuleRecord} (dated : record.Dated)
    (same : SameEvidence record record') : record'.Dated :=
  dated.mono (same.declarations ▸ List.Subperm.refl _) same.uid
    (same.incarnation ▸ UInt32.le_refl _)

/-- Newer declarations of the incarnation are added. -/
lemma ModuleRecord.Dated.append {added : List CapabilityDeclaration} (dated : record.Dated)
    (ascending : added.Pairwise fun a b => a.sequence < b.sequence)
    (later : ∀ a ∈ record.declarations, ∀ b ∈ added, a.sequence < b.sequence)
    (own : ∀ d ∈ added, d.module = record.uid ∧ d.port = .none ∧
      d.incarnation = record.incarnation) :
    ModuleRecord.Dated { record with declarations := record.declarations ++ added } where
  dated := by
    refine dated.dated.append ⟨ascending.imp fun less => ?_, fun a ha b hb _ => ?_⟩
      fun a ha b hb => ⟨UInt64.lt_iff_toNat_lt.1 (later a ha b hb), ?_⟩
    · exact Nat.ne_of_lt (UInt64.lt_iff_toNat_lt.1 less)
    · show a.incarnation.toNat ≤ b.incarnation.toNat
      rw [(own a ha).2.2, (own b hb).2.2]
    · show a.incarnation.toNat ≤ b.incarnation.toNat
      rw [(own b hb).2.2]
      exact UInt32.le_iff_toNat_le.1 (dated.past a ha)
  about d member := by
    obtain old | new := List.mem_append.1 member
    · exact dated.about d old
    · exact ⟨(own d new).1, (own d new).2.1⟩
  past d member := by
    obtain old | new := List.mem_append.1 member
    · exact dated.past d old
    · exact (own d new).2.2 ▸ UInt32.le_refl _

/-- A stored declaration has a sequence number of the past. -/
lemma Consistent.declaration_lt (consistent : Consistent s) {uid : ModuleUid}
    (found : s.modules[uid]? = some record) {d : CapabilityDeclaration}
    (member : d ∈ record.declarations) : d.sequence < s.nextSequence :=
  (consistent.evidence uid record found _
    (mem_origins.2 (.inr (.inl ⟨d, member, rfl⟩)))).1.sequence

/-- A located module has the declarations it had (source `Registry::register_module`, the
lookup). -/
lemma Located.dated {uid : ModuleUid} {located : ModuleRecord} (dated : DatedModules s)
    (locate : Located s.modules uid located) : located.Dated := by
  cases locate with
  | fresh absent own first claims declarations => exact .none declarations
  | current found same => exact (dated uid _ found).same same
  | @renewed record found room next latches same =>
    have last : record.incarnation.toNat ≠ 2 ^ 32 - 1 := fun full => room (UInt32.toNat_inj.1 full)
    have := record.incarnation.toNat_lt
    refine (dated uid record found).mono (same.declarations ▸ List.Subperm.refl _) same.uid ?_
    rw [next, UInt32.le_iff_toNat_le, UInt32.toNat_add, UInt32.toNat_one]
    omega

variable [StdSort]

/-- A step keeps the declarations of every module told apart (source `RegistryImpl::mutate`). -/
lemma DatedModules.step (dated : DatedModules s) (consistent : Consistent s) {call : Call}
    (taken : step config s call = some s') : DatedModules s' := by
  have does := moduleStep_of_fresh (consistent.modules.fresh rfl) taken
  obtain ⟨operation, clock⟩ := call
  intro uid record found
  cases does with
  | stay quiet written => exact dated uid record (written ▸ found)
  | move quiet before same written =>
    rw [written] at found
    obtain ⟨rfl, rfl⟩ | ⟨_, found⟩ := getElem?_insert_iff.1 found
    · exact (dated _ _ before).same same
    · exact dated uid record found
  | registerModule live named locate trim same written =>
    rw [written] at found
    obtain ⟨rfl, rfl⟩ | ⟨_, found⟩ := getElem?_insert_iff.1 found
    · exact (locate.dated dated).mono (same.declarations ▸ List.Subperm.refl _) same.uid
        (same.incarnation ▸ UInt32.le_refl _)
    · exact dated uid record found
  | updateIdentity live known trim written =>
    rw [written] at found
    obtain ⟨rfl, rfl⟩ | ⟨_, found⟩ := getElem?_insert_iff.1 found
    · exact (dated _ _ known).mono (List.Subperm.refl _) rfl (UInt32.le_refl _)
    · exact dated uid record found
  | @publishCapability authority module key subkey value provenance _ before declarations live known
      trim written =>
    rw [written] at found
    obtain ⟨rfl, rfl⟩ | ⟨_, found⟩ := getElem?_insert_iff.1 found
    · have more := (dated _ _ known).append (List.pairwise_singleton _
        (moduleDeclaration clock authority (s.generation + 1) s.nextSequence before key subkey value
          provenance)) (fun a ha b hb => ?_) fun d member => ?_
      · exact more.mono (trimDeclarations_sublist trim).subperm rfl (UInt32.le_refl _)
      · rw [List.mem_singleton.1 hb]
        exact consistent.declaration_lt known ha
      · rw [List.mem_singleton.1 member]
        exact ⟨rfl, rfl, rfl⟩
    · exact dated uid record found
  | ingestHealth live known current stores newer latched trims written =>
    rw [written] at found
    obtain ⟨rfl, rfl⟩ | ⟨_, found⟩ := getElem?_insert_iff.1 found
    · exact (dated _ _ known).mono (List.Subperm.refl _) rfl (UInt32.le_refl _)
    · exact dated uid record found

end Dated

/-- What a publication states about a module (source `Registry::publish_capability`). -/
structure Publication where
  authority : AuthorityToken
  key : CapabilityKey
  subkey : Bytes
  value : CapabilityValue
  provenance : Provenance

/-- A publication as it is made: with a handle of the module, under a policy, at a clock. -/
structure Publishing where
  stated : Publication
  module : ModuleHandle
  policy : MutationPolicy
  clock : Clock

/-- The attribute a publication is about. -/
def Publication.subject (publication : Publication) : CapabilityKey × Bytes :=
  (publication.key, publication.subkey)

/-- The call that makes a publication. -/
def Publishing.call (publishing : Publishing) : Call where
  operation := .publishCapability publishing.stated.authority publishing.module
    publishing.stated.key publishing.stated.subkey publishing.stated.value
    publishing.stated.provenance publishing.policy
  clock := publishing.clock

/-- Who states what about an attribute. -/
def Publication.told (publication : Publication) :
    SourceId × (CapabilityKey × Bytes) × CapabilityValue :=
  (publication.authority.source, publication.subject, publication.value)

/-- Who states what about an attribute. -/
def CapabilityDeclaration.told (declaration : CapabilityDeclaration) :
    SourceId × (CapabilityKey × Bytes) × CapabilityValue :=
  (declaration.source, declaration.subject, declaration.value)

/-- The declaration is about the current incarnation of a module and comes from a live source
(source `Registry::publish_capability`). -/
structure CapabilityDeclaration.Stands (s : State) (record : ModuleRecord)
    (declaration : CapabilityDeclaration) : Prop where
  own : declaration.module = record.uid ∧ declaration.port = .none ∧
    declaration.incarnation = record.incarnation
  source : sourceIsLive s declaration.source declaration.sourceEpoch = true
  live : declaration.live = true

/-- What publications leave of a module: the declarations it had and one for each of them, cut. -/
structure Published (s t : State) (uid : ModuleUid) (record : ModuleRecord) (l : List Publishing)
    (added kept : List CapabilityDeclaration) : Prop where
  found : t.modules[uid]? = some { record with declarations := kept }
  sources : t.sources = s.sources
  told : added.map (·.told) = l.map (·.stated.told)
  stands : ∀ d ∈ added, d.Stands s record
  ascending : added.Pairwise fun a b => a.sequence < b.sequence
  later : ∀ d ∈ added, s.nextSequence ≤ d.sequence
  cut : declarationLabels.Cut (record.declarations ++ added) kept

section Publish

variable {config : RegistryConfig} {s t u : State} {uid : ModuleUid} {record : ModuleRecord}
  {p : Publishing} {l : List Publishing}

/-- Publishing nothing. -/
lemma Published.nothing (found : s.modules[uid]? = some record) :
    Published s s uid record [] [] record.declarations where
  found := found
  sources := rfl
  told := rfl
  stands d member := (List.not_mem_nil member).elim
  ascending := .nil
  later d member := (List.not_mem_nil member).elim
  cut := by
    rw [List.append_nil]
    exact .refl _

/-- One more publication, before the others. -/
lemma Published.cons {declaration : CapabilityDeclaration}
    {added declarations kept : List CapabilityDeclaration}
    (rest : Published u t uid { record with declarations } l added kept)
    (sources : u.sources = s.sources) (told : declaration.told = p.stated.told)
    (stands : declaration.Stands s record) (sequence : declaration.sequence = s.nextSequence)
    (grows : s.nextSequence < u.nextSequence)
    (cut : declarationLabels.Cut (record.declarations ++ [declaration]) declarations) :
    Published s t uid record (p :: l) (declaration :: added) kept where
  found := rest.found
  sources := rest.sources.trans sources
  told := by rw [List.map_cons, List.map_cons, told, rest.told]
  stands d member := by
    cases member with
    | head => exact stands
    | tail _ member =>
      have later := rest.stands d member
      exact ⟨later.own, sourceIsLive_congr sources _ _ ▸ later.source, later.live⟩
  ascending := List.pairwise_cons.2 ⟨fun d member =>
    UInt64.lt_of_lt_of_le (sequence ▸ grows) (rest.later d member), rest.ascending⟩
  later d member := by
    cases member with
    | head => exact sequence ▸ UInt64.le_refl _
    | tail _ member => exact UInt64.le_trans (UInt64.le_of_lt grows) (rest.later d member)
  cut := by
    have whole := cut.trans rest.cut
    rwa [List.append_assoc] at whole

variable [StdSort]

/-- A publication adds one declaration to its module and keeps the sources (source
`Registry::publish_capability`). -/
lemma step_publishing (taken : step config s p.call = some t) :
    t.sources = s.sources ∧ ∃ record declaration declarations,
      s.modules[p.module.uid]? = some record ∧ declaration.told = p.stated.told ∧
      declaration.Stands s record ∧ declaration.sequence = s.nextSequence ∧
      trimDeclarations (record.declarations ++ [declaration]) config.maxDeclarationsPerModule
        config.maxClaimHistory = .ok declarations ∧
      t.modules[p.module.uid]? = some { record with declarations } := by
  obtain ⟨_, next, body, rfl⟩ := step_eq_some taken
  obtain ⟨_, body⟩ := fst_map_eq_ok.1 body
  obtain ⟨auth, record, declarations, found, trim, rfl⟩ := publishCapabilityBody_inv body
  refine ⟨rfl, record, _, declarations, found, ?_, ?_, ?_, trim, ?_⟩
  · rfl
  · exact ⟨⟨rfl, rfl, rfl⟩, (requireAuthority_eq_ok.1 auth).2, rfl⟩
  · rfl
  · exact Std.ExtTreeMap.getElem?_insert_self

/-- What a list of publications about a module leaves of it, while the sequence counter does not
wrap and a history is kept (source `Registry::publish_capability`). -/
lemma published_of_run (room : 1 ≤ config.maxClaimHistory)
    (found : s.modules[uid]? = some record) (on : ∀ p ∈ l, p.module.uid = uid)
    (run : runGuarded (step config) (fun s _ => NoWrap s) (l.map Publishing.call) s = some t) :
    ∃ added kept, Published s t uid record l added kept := by
  induction l generalizing s record with
  | nil =>
    obtain rfl : s = t := by simpa [runGuarded] using run
    exact ⟨[], record.declarations, .nothing found⟩
  | cons p l ih =>
    obtain ⟨noWrap, u, taken, run⟩ := runGuarded_cons_eq_some.1 run
    obtain ⟨sources, before, declaration, declarations, known, told, stands, sequence, trim,
      stored⟩ := step_publishing taken
    rw [on p List.mem_cons_self] at known stored
    obtain rfl := Option.some.inj (found.symm.trans known)
    have others : ∀ q ∈ l, q.module.uid = uid := fun q member =>
      on q (List.mem_cons_of_mem _ member)
    obtain ⟨added, kept, rest⟩ := ih stored others run
    have grows : s.nextSequence < u.nextSequence :=
      UInt64.lt_iff_toNat_lt.2 ((of_decide_eq_true noWrap).grows taken)
    exact ⟨declaration :: added, kept,
      rest.cons sources told stands sequence grows (trimDeclarations_cut room trim)⟩

/-- Publications in a registry that keeps no history leave a module without declarations (source
`Registry::publish_capability`). -/
lemma published_none (none : config.maxClaimHistory = 0)
    (found : s.modules[uid]? = some record) (on : ∀ p ∈ l, p.module.uid = uid)
    (run : runGuarded (step config) (fun s _ => NoWrap s) (l.map Publishing.call) s = some t) :
    ∃ kept, t.modules[uid]? = some { record with declarations := kept } ∧
      kept = if l = [] then record.declarations else [] := by
  induction l generalizing s record with
  | nil =>
    obtain rfl : s = t := by simpa [runGuarded] using run
    exact ⟨_, found, rfl⟩
  | cons p l ih =>
    obtain ⟨_, u, taken, run⟩ := runGuarded_cons_eq_some.1 run
    obtain ⟨_, before, declaration, declarations, known, _, _, _, trim, stored⟩ :=
      step_publishing taken
    rw [on p List.mem_cons_self] at known stored
    obtain rfl := Option.some.inj (found.symm.trans known)
    obtain rfl := trimDeclarations_none none trim
    have others : ∀ q ∈ l, q.module.uid = uid := fun q member =>
      on q (List.mem_cons_of_mem _ member)
    obtain ⟨kept, last, empty⟩ := ih stored others run
    refine ⟨kept, last, ?_⟩
    rw [empty, if_neg (List.cons_ne_nil p l)]
    split <;> rfl

end Publish

section Live

variable {s : State} {record : ModuleRecord} {full kept : List CapabilityDeclaration}
  {d x : CapabilityDeclaration} {k : CapabilityKey × Bytes}

/-- The group of a declaration tells its attribute and its source. -/
lemma declarationLabels_group_eq {a b : CapabilityDeclaration} :
    declarationLabels.group a = declarationLabels.group b ↔
      a.subject = b.subject ∧ a.source = b.source ∧ a.sourceEpoch = b.sourceEpoch := by
  simp only [declarationLabels, declarationGroup, CapabilityDeclaration.subject, Prod.mk.injEq,
    and_assoc]

/-- A declaration that is not older than one about the current incarnation is about it as well. -/
lemma ModuleRecord.Dated.current {b : CapabilityDeclaration} (dated : record.Dated)
    (member : d ∈ record.declarations) (inside : b ∈ record.declarations)
    (current : d.incarnation = record.incarnation)
    (later : declarationLabels.stamp d ≤ declarationLabels.stamp b) :
    b.incarnation = record.incarnation := by
  have recent : declarationLabels.era b ≤ declarationLabels.era d := by
    show b.incarnation.toNat ≤ d.incarnation.toNat
    rw [current]
    exact UInt32.le_iff_toNat_le.1 (dated.past b inside)
  have era : b.incarnation.toNat = d.incarnation.toNat :=
    dated.dated.era_eq member inside recent later
  exact (UInt32.toNat_inj.1 era).trans current

/-- A declaration about the current incarnation is shadowed unless it is the last one of its source
about its attribute (source `declaration_shadowed`). -/
lemma ModuleRecord.Dated.shadowed_iff (dated : record.Dated) (member : d ∈ record.declarations)
    (current : d.incarnation = record.incarnation) :
    declarationShadowed record.declarations d = false ↔
      declarationLabels.Last record.declarations d := by
  rw [declarationShadowed, List.any_eq_false]
  constructor
  · intro bare
    refine ⟨member, fun b inside group => ?_⟩
    by_contra newer
    rw [Nat.not_le] at newer
    have same := (dated.current member inside current newer.le).trans current.symm
    obtain ⟨subject, source, epoch⟩ := declarationLabels_group_eq.1 group
    obtain ⟨key, subkey⟩ := Prod.mk.inj subject
    obtain ⟨module, port⟩ := dated.about d member
    obtain ⟨module', port'⟩ := dated.about b inside
    have covers : declarationCovers b d = true :=
      decide_eq_true ⟨source, epoch, key, subkey, module'.trans module.symm,
        same, UInt64.lt_iff_toNat_lt.2 newer⟩
    exact bare b inside (decide_eq_true ⟨covers, by rw [port, port']⟩)
  · intro last b inside shadows
    have covers : declarationCovers b d = true := (of_decide_eq_true shadows).1
    obtain ⟨group, newer⟩ := declarationCovers_narrow b d covers
    exact Nat.not_lt.2 (last.latest b inside group) newer

/-- The live declarations of a module whose declarations were cut are the last ones of the live
sources about the current incarnation (source `live_declarations`). -/
lemma mem_liveDeclarations_iff
    (dated : ModuleRecord.Dated { record with declarations := full })
    (cut : declarationLabels.Cut full kept) :
    (x ∈ liveDeclarations s { record with declarations := kept } record.incarnation ∧
        x.live = true) ↔
      ∃ d, declarationLabels.Last full d ∧ d.incarnation = record.incarnation ∧
        sourceIsLive s d.source d.sourceEpoch = true ∧ { d with live := true } = x := by
  have keptDated : ModuleRecord.Dated { record with declarations := kept } :=
    dated.mono cut.sublist.subperm rfl (UInt32.le_refl _)
  constructor
  · rintro ⟨member, live⟩
    obtain ⟨d, inside, rfl⟩ := List.mem_map.1 member
    obtain ⟨inside, current⟩ := List.mem_filter.1 inside
    have current := of_decide_eq_true current
    have live : (sourceIsLive s d.source d.sourceEpoch &&
      !declarationShadowed kept d) = true := live
    obtain ⟨source, bare⟩ := Bool.and_eq_true_iff.1 live
    rw [Bool.not_eq_true'] at bare
    have last := (cut.last_iff dated.dated).1 ((keptDated.shadowed_iff inside current).1 bare)
    exact ⟨d, last, current, source, by rw [live]⟩
  · rintro ⟨d, last, current, source, rfl⟩
    have last' := (cut.last_iff dated.dated).2 last
    have bare : declarationShadowed kept d = false :=
      (keptDated.shadowed_iff last'.member current).2 last'
    refine ⟨List.mem_map.2 ⟨d, List.mem_filter.2 ⟨last'.member, decide_eq_true current⟩, ?_⟩, rfl⟩
    rw [source, bare]
    rfl

/-- Cutting the declarations of a module leaves a current declaration about every attribute that had
one (source `trim_declarations`). -/
lemma exists_liveDeclarations_iff
    (dated : ModuleRecord.Dated { record with declarations := full })
    (cut : declarationLabels.Cut full kept) :
    (∃ x ∈ liveDeclarations s { record with declarations := kept } record.incarnation,
        x.subject = k) ↔ ∃ d ∈ full, d.incarnation = record.incarnation ∧ d.subject = k := by
  constructor
  · rintro ⟨x, member, rfl⟩
    obtain ⟨d, inside, rfl⟩ := List.mem_map.1 member
    obtain ⟨inside, current⟩ := List.mem_filter.1 inside
    exact ⟨d, cut.sublist.subset inside, of_decide_eq_true current, rfl⟩
  · rintro ⟨d, member, current, rfl⟩
    obtain ⟨b, last, group⟩ := declarationLabels.exists_last member
    have same := dated.current member last.member current (last.latest d member group.symm)
    have stays := ((cut.last_iff dated.dated).2 last).member
    refine ⟨_, List.mem_map_of_mem (List.mem_filter.2 ⟨stays, decide_eq_true same⟩), ?_⟩
    exact (declarationLabels_group_eq.1 group).1

end Live

/-- The live declarations about an attribute of the sources that publish nothing about it. -/
def standing (s : State) (record : ModuleRecord) (l : List Publication)
    (k : CapabilityKey × Bytes) : List CapabilityDeclaration :=
  (liveDeclarations s record record.incarnation).filter fun d =>
    d.live ∧ d.subject = k ∧ ∀ p ∈ l, p.subject = k → p.authority.source ≠ d.source

/-- The publications of a source are about different attributes. -/
def Once (l : List Publishing) : Prop :=
  (l.map fun p => (p.stated.told.1, p.stated.told.2.1)).Nodup

/-- The values that are published about an attribute, in the order of the publications. -/
def publishedValues (l : List Publication) (k : CapabilityKey × Bytes) : List CapabilityValue :=
  (l.filter fun p => p.subject = k).map (·.value)

section Standing

variable {s t : State} {uid : ModuleUid} {record : ModuleRecord} {l : List Publishing}
  {added kept : List CapabilityDeclaration} {x : CapabilityDeclaration}
  {k : CapabilityKey × Bytes}

/-- What stands about an attribute are the last declarations of the live sources that publish
nothing about it. -/
lemma mem_standing_iff {l : List Publication} (dated : record.Dated) :
    x ∈ standing s record l k ↔ ∃ d, declarationLabels.Last record.declarations d ∧
      d.incarnation = record.incarnation ∧ sourceIsLive s d.source d.sourceEpoch = true ∧
      { d with live := true } = x ∧ d.subject = k ∧
      ∀ p ∈ l, p.subject = k → p.authority.source ≠ d.source := by
  have live := mem_liveDeclarations_iff (s := s) (x := x) dated
    (Labels.Cut.refl record.declarations)
  rw [standing, List.mem_filter, decide_eq_true_iff, ← and_assoc, live]
  constructor
  · rintro ⟨⟨d, last, current, source, rfl⟩, subject, others⟩
    exact ⟨d, last, current, source, rfl, subject, others⟩
  · rintro ⟨d, last, current, source, rfl, subject, others⟩
    exact ⟨⟨d, last, current, source, rfl⟩, subject, others⟩

/-- The declarations with those that publications add are told apart. -/
lemma Published.dated (published : Published s t uid record l added kept) (dated : record.Dated)
    (consistent : Consistent s) (found : s.modules[uid]? = some record) :
    ModuleRecord.Dated { record with declarations := record.declarations ++ added } :=
  dated.append published.ascending (fun _ ha b hb =>
    UInt64.lt_of_lt_of_le (consistent.declaration_lt found ha) (published.later b hb))
    fun d member => (published.stands d member).own

/-- Declarations that are added are of different sources or about different attributes. -/
lemma Published.apart (published : Published s t uid record l added kept) (once : Once l) :
    added.Pairwise fun a b => declarationLabels.group a ≠ declarationLabels.group b := by
  have names : (added.map fun d => (d.told.1, d.told.2.1)).Nodup := by
    have same := congrArg (List.map fun e => (e.1, e.2.1)) published.told
    rw [List.map_map, List.map_map] at same
    exact same ▸ once
  refine (List.pairwise_map.1 names).imp fun differ group => differ ?_
  obtain ⟨subject, source, _⟩ := declarationLabels_group_eq.1 group
  exact Prod.ext source subject

/-- A source publishes about an attribute when it adds a declaration about it. -/
lemma Published.exists_publishing_iff (published : Published s t uid record l added kept)
    {source : SourceId} :
    (∃ p ∈ l.map Publishing.stated, p.subject = k ∧ p.authority.source = source) ↔
      ∃ d ∈ added, d.subject = k ∧ d.source = source := by
  have told := published.told
  constructor
  · rintro ⟨p, member, rfl, rfl⟩
    obtain ⟨q, inside, rfl⟩ := List.mem_map.1 member
    have also : q.stated.told ∈ added.map (·.told) := told ▸ List.mem_map_of_mem inside
    obtain ⟨d, new, same⟩ := List.mem_map.1 also
    exact ⟨d, new, congrArg (·.2.1) same, congrArg (·.1) same⟩
  · rintro ⟨d, member, rfl, rfl⟩
    have also : d.told ∈ l.map (·.stated.told) := told ▸ List.mem_map_of_mem member
    obtain ⟨q, inside, same⟩ := List.mem_map.1 also
    exact ⟨q.stated, List.mem_map_of_mem inside, congrArg (·.2.1) same, congrArg (·.1) same⟩

/-- After the publications the live declarations about an attribute are the standing ones and the
added ones (source `live_declarations`). -/
lemma Published.mem_live_iff (published : Published s t uid record l added kept)
    (dated : record.Dated) (consistent : Consistent s) (found : s.modules[uid]? = some record)
    (once : Once l) :
    (x ∈ liveDeclarations t { record with declarations := kept } record.incarnation ∧
        x.live = true) ∧ x.subject = k ↔
      x ∈ standing s record (l.map (·.stated)) k ∨ x ∈ added ∧ x.subject = k := by
  have later : ∀ a ∈ record.declarations, ∀ b ∈ added,
      declarationLabels.stamp a < declarationLabels.stamp b := fun a ha b hb =>
    UInt64.lt_iff_toNat_lt.1 (UInt64.lt_of_lt_of_le (consistent.declaration_lt found ha)
      (published.later b hb))
  rw [mem_liveDeclarations_iff (published.dated dated consistent found) published.cut,
    mem_standing_iff dated]
  simp only [Labels.last_append_iff later (published.apart once),
    sourceIsLive_congr published.sources]
  constructor
  · rintro ⟨⟨d, ⟨last, others⟩ | new, current, source, rfl⟩, rfl⟩
    · refine .inl ⟨d, last, current, source, rfl, rfl, fun p member about same => ?_⟩
      obtain ⟨b, new, subject, author⟩ :=
        published.exists_publishing_iff.1 ⟨p, member, about, same⟩
      have epoch := (published.stands b new).source
      rw [author] at epoch
      exact others b new (declarationLabels_group_eq.2
        ⟨subject, author, sourceIsLive_unique epoch source⟩)
    · have live := (published.stands d new).live
      refine .inr ⟨?_, rfl⟩
      rwa [← live]
  · rintro (⟨d, last, current, source, rfl, rfl, others⟩ | ⟨new, rfl⟩)
    · refine ⟨⟨d, .inl ⟨last, fun b new group => ?_⟩, current, source, rfl⟩, rfl⟩
      obtain ⟨subject, author, _⟩ := declarationLabels_group_eq.1 group
      obtain ⟨p, member, about, same⟩ := published.exists_publishing_iff.2 ⟨b, new, subject, author⟩
      exact others p member about same
    · have stands := published.stands x new
      refine ⟨⟨x, .inr new, stands.own.2.2, stands.source, ?_⟩, rfl⟩
      rw [← stands.live]

/-- The declarations of a module, marked live or not, are told apart
(source `live_declarations`). -/
lemma ModuleRecord.Dated.distinct (dated : record.Dated) :
    declarationReading.Distinct (liveDeclarations s record record.incarnation) := by
  refine List.pairwise_map.2 ((dated.dated.apart.filter _).imp fun differ same => differ ?_)
  exact congrArg UInt64.toNat same

/-- After the publications the live declarations about an attribute are, the oldest first, the
standing ones and then the added ones in the order of the publications (source
`build_capability_consensus`, the sort of `live`). -/
lemma Published.liveSorted_eq (published : Published s t uid record l added kept)
    (dated : record.Dated) (consistent : Consistent s) (found : s.modules[uid]? = some record)
    (once : Once l) (k : CapabilityKey × Bytes) :
    declarationReading.liveSorted (withKey CapabilityDeclaration.subject
        (liveDeclarations t { record with declarations := kept } record.incarnation) k) =
      declarationReading.liveSorted (standing s record (l.map (·.stated)) k) ++
        added.filter (·.subject = k) := by
  have whole := published.dated dated consistent found
  have keptDated : ModuleRecord.Dated { record with declarations := kept } :=
    whole.mono published.cut.sublist.subperm rfl (UInt32.le_refl _)
  have distinct : declarationReading.Distinct (withKey CapabilityDeclaration.subject
      (liveDeclarations t { record with declarations := kept } record.incarnation) k) :=
    keptDated.distinct.filter _
  have standingDistinct : declarationReading.Distinct (standing s record (l.map (·.stated)) k) :=
    dated.distinct.filter _
  refine Reading.eq_of_ascending distinct.ascending ?_ fun x => ?_
  · refine List.pairwise_append.2 ⟨standingDistinct.ascending, ?_, fun a ha b hb => ?_⟩
    · exact (published.ascending.filter _).imp fun less => UInt64.lt_iff_toNat_lt.1 less
    · obtain ⟨d, last, _, _, rfl, _⟩ := (mem_standing_iff dated).1 (Reading.mem_liveSorted.1 ha).1
      have new := published.later b (List.mem_filter.1 hb).1
      exact UInt64.lt_iff_toNat_lt.1
        (UInt64.lt_of_lt_of_le (consistent.declaration_lt found last.member) new)
  · have live : x ∈ standing s record (l.map (·.stated)) k →
        declarationReading.live x = true := fun member =>
      (of_decide_eq_true (List.mem_filter.1 member).2).1
    have now := published.mem_live_iff (x := x) (k := k) dated consistent found once
    rw [Reading.mem_liveSorted, List.mem_append, Reading.mem_liveSorted, and_iff_left_of_imp live,
      List.mem_filter, decide_eq_true_iff, ← now, withKey, List.mem_filter, decide_eq_true_iff,
      and_right_comm]
    rfl

/-- The values of the added declarations are the published ones. -/
lemma Published.values (published : Published s t uid record l added kept)
    (k : CapabilityKey × Bytes) :
    (added.filter (·.subject = k)).map (·.value) = publishedValues (l.map (·.stated)) k := by
  have told := congrArg (fun told => (told.filter fun e => e.2.1 = k).map (·.2.2)) published.told
  simp only [List.filter_map, List.map_map] at told
  rw [publishedValues, List.filter_map, List.map_map]
  exact told

/-- The live declarations of a module about an attribute come from different source incarnations
(source `newest_per_source`). -/
lemma ModuleRecord.Dated.authors (dated : record.Dated) (k : CapabilityKey × Bytes) :
    (declarationReading.liveSorted (withKey CapabilityDeclaration.subject
      (liveDeclarations s record record.incarnation) k)).Pairwise fun a b =>
        declarationReading.author a ≠ declarationReading.author b := by
  have distinct : declarationReading.Distinct (withKey CapabilityDeclaration.subject
      (liveDeclarations s record record.incarnation) k) := dated.distinct.filter _
  refine distinct.ascending.imp_of_mem fun {a b} ha hb older same => ?_
  have last {x : CapabilityDeclaration} (member : x ∈ declarationReading.liveSorted
      (withKey CapabilityDeclaration.subject (liveDeclarations s record record.incarnation) k)) :
      x.subject = k ∧ ∃ d, declarationLabels.Last record.declarations d ∧
        { d with live := true } = x := by
    obtain ⟨inside, live⟩ := Reading.mem_liveSorted.1 member
    obtain ⟨inside, about⟩ := List.mem_filter.1 inside
    obtain ⟨d, last, _, _, own⟩ :=
      (mem_liveDeclarations_iff dated (Labels.Cut.refl record.declarations)).1 ⟨inside, live⟩
    exact ⟨of_decide_eq_true about, d, last, own⟩
  obtain ⟨about, c, newest, rfl⟩ := last ha
  obtain ⟨about', d, other, rfl⟩ := last hb
  obtain ⟨source, epoch⟩ := Prod.mk.inj same
  have group : declarationLabels.group d = declarationLabels.group c :=
    declarationLabels_group_eq.2 ⟨about'.trans about.symm, source.symm, epoch.symm⟩
  exact Nat.not_lt.2 (newest.latest d other.member group) older

/-- The values of the live declarations about an attribute are those of the standing ones and then
the published ones. -/
lemma Published.live_values (published : Published s t uid record l added kept)
    (dated : record.Dated) (consistent : Consistent s) (found : s.modules[uid]? = some record)
    (once : Once l) (k : CapabilityKey × Bytes) :
    (declarationReading.liveSorted (withKey CapabilityDeclaration.subject
        (liveDeclarations t { record with declarations := kept } record.incarnation) k)).map
        declarationReading.value =
      (declarationReading.liveSorted (standing s record (l.map (·.stated)) k)).map (·.value) ++
        publishedValues (l.map (·.stated)) k := by
  rw [published.liveSorted_eq dated consistent found once, List.map_append, ← published.values]
  rfl

/-- What stands about an attribute does not depend on the order of the publications. -/
lemma standing_perm {l l' : List Publication} (perm : l.Perm l') :
    standing s record l k = standing s record l' k := by
  refine List.filter_congr fun d _ => decide_eq_decide.2 ?_
  simp only [perm.mem_iff]

/-- When nothing stands, no standing declaration is sorted. -/
lemma liveSorted_standing_eq_nil {l : List Publication} :
    declarationReading.liveSorted (standing s record l k) = [] ↔ standing s record l k = [] := by
  refine ⟨fun none => List.eq_nil_iff_forall_not_mem.2 fun d member => ?_, fun none => ?_⟩
  · have live : declarationReading.live d = true :=
      (of_decide_eq_true (List.mem_filter.1 member).2).1
    have sorted := Reading.mem_liveSorted.2 ⟨member, live⟩
    rw [none] at sorted
    exact List.not_mem_nil sorted
  · rw [none]
    rfl

/-- After the publications there is an entry for every attribute that a current declaration was
about and for every attribute that is published (source `grouped`). -/
lemma Published.entry_iff (published : Published s t uid record l added kept)
    (dated : record.Dated) (consistent : Consistent s) (found : s.modules[uid]? = some record) :
    withKey CapabilityDeclaration.subject
        (liveDeclarations t { record with declarations := kept } record.incarnation) k ≠ [] ↔
      (∃ d ∈ record.declarations, d.incarnation = record.incarnation ∧ d.subject = k) ∨
        ∃ p ∈ l.map (·.stated), p.subject = k := by
  rw [withKey_ne_nil,
    exists_liveDeclarations_iff (published.dated dated consistent found) published.cut]
  constructor
  · rintro ⟨d, member, current, about⟩
    obtain old | new := List.mem_append.1 member
    · exact .inl ⟨d, old, current, about⟩
    · obtain ⟨p, inside, same, _⟩ := published.exists_publishing_iff.2 ⟨d, new, about, rfl⟩
      exact .inr ⟨p, inside, same⟩
  · rintro (⟨d, old, current, about⟩ | ⟨p, inside, about⟩)
    · exact ⟨d, List.mem_append_left _ old, current, about⟩
    · obtain ⟨d, new, same, _⟩ := published.exists_publishing_iff.1 ⟨p, inside, about, rfl⟩
      exact ⟨d, List.mem_append_right _ new, (published.stands d new).own.2.2, same⟩

end Standing
end TransceiverRegistry

import TransceiverRegistry.Snapshot.Consistency
import TransceiverRegistry.Snapshot.Revalidation

/-!
# The capability digest and the order of publications

The digest of a capability view covers of every attribute the outcome and the value. The value is
the oldest one of those that agree, and numbers that are equal need not be written alike: so two
orders of the same publications give the same digest when every attribute has the same value first,
or has no value.
-/

namespace TransceiverRegistry

open Lib

/-- What the digest of a view covers of an attribute (source `digest_capability_attributes`). -/
def CapabilityConsensus.content (consensus : CapabilityConsensus) :
    (CapabilityKey × Bytes) × ConsensusOutcome × Option CapabilityValue :=
  (consensus.subject, consensus.outcome, if consensus.hasValue then some consensus.value else none)

/-- What the digest of a view covers (source `CapabilityView::digest`). -/
def CapabilityView.content (view : CapabilityView) :
    List ((CapabilityKey × Bytes) × ConsensusOutcome × Option CapabilityValue) :=
  view.attributes.map (·.content)

/-- The identity of what is covered of an attribute (source `build_capability_consensus`, the
writer). -/
def contentDigest (e : (CapabilityKey × Bytes) × ConsensusOutcome × Option CapabilityValue) :
    Digest :=
  CapabilityConsensus.digestOf {
    key := e.1.1, subkey := e.1.2, outcome := e.2.1, hasValue := e.2.2.isSome
    value := e.2.2.getD .none, declarations := [], superseded := [], digest := Digest.zero }

/-- The attribute has the same value in two orders of publications: another source stands, or the
published values disagree, or the same value is published first. -/
def Settled (s : State) (record : ModuleRecord) (l l' : List Publication)
    (k : CapabilityKey × Bytes) : Prop :=
  standing s record l k ≠ [] ∨
    ¬ (publishedValues l k).Pairwise (fun u v => u.equal v = true) ∨
    (publishedValues l k).head? = (publishedValues l' k).head?

/-- Every attribute of a module is settled, or the registry keeps no history and drops all
declarations. -/
def SettledAll (config : RegistryConfig) (s : State) (uid : ModuleUid) (l l' : List Publication) :
    Prop :=
  config.maxClaimHistory = 0 ∨
    ∀ record, s.modules[uid]? = some record → ∀ k, Settled s record l l' k

section Content

/-- The identity of an attribute depends on what is covered of it. -/
lemma CapabilityConsensus.digestOf_eq (consensus : CapabilityConsensus) :
    consensus.digestOf = contentDigest consensus.content := by
  unfold contentDigest digestOf content
  cases consensus.hasValue <;> rfl

/-- The identity of the attributes of a subject depends on what is covered of them (source
`digest_capability_attributes`). -/
lemma digest_of_content (declarations : List CapabilityDeclaration) :
    digestCapabilityAttributes (buildCapabilityConsensus declarations) =
      let contents := (buildCapabilityConsensus declarations).map (·.content)
      (contents.foldl (fun w e => writeEntry "key" w (contentDigest e) (code e.1.1) e.2.1 e.1.2)
        (CanonicalWriter.new.beginArray contents.length)).digest := by
  have own (group : (CapabilityKey × Bytes) × List CapabilityDeclaration) :
      (attributeConsensus group.1 group.2).digest =
        contentDigest (attributeConsensus group.1 group.2).content := by
    rw [← CapabilityConsensus.digestOf_eq]
    rfl
  simp only [digestCapabilityAttributes, buildCapabilityConsensus, List.map_map, List.foldl_map,
    List.length_map, own, Function.comp_apply]
  rfl

/-- What is covered of declarations about the same attributes is the same exactly when it is for
every attribute (source `grouped`). -/
lemma contents_eq_iff {declarations declarations' : List CapabilityDeclaration}
    (keys : ∀ k, withKey CapabilityDeclaration.subject declarations k = [] ↔
      withKey CapabilityDeclaration.subject declarations' k = []) :
    (buildCapabilityConsensus declarations).map (·.content) =
        (buildCapabilityConsensus declarations').map (·.content) ↔
      ∀ k, withKey CapabilityDeclaration.subject declarations k ≠ [] →
        (attributeConsensus k (withKey CapabilityDeclaration.subject declarations k)).content =
          (attributeConsensus k (withKey CapabilityDeclaration.subject declarations' k)).content := by
  rw [buildCapabilityConsensus, buildCapabilityConsensus, List.map_map, List.map_map]
  exact map_groupBy_eq_iff (f := fun k group => (attributeConsensus k group).content) keys
    fun _ _ _ _ same => congrArg Prod.fst same

end Content

section Orders

variable {s t t' : State} {uid : ModuleUid} {record : ModuleRecord} {l l' : List Publishing}
  {added added' kept kept' : List CapabilityDeclaration} {k : CapabilityKey × Bytes}

/-- There is an entry for the same attributes after two orders of publications (source
`grouped`). -/
lemma Published.no_entry_iff (published : Published s t uid record l added kept)
    (published' : Published s t' uid record l' added' kept') (dated : record.Dated)
    (consistent : Consistent s) (found : s.modules[uid]? = some record)
    (perm : (l.map (·.stated)).Perm (l'.map (·.stated))) (k : CapabilityKey × Bytes) :
    withKey CapabilityDeclaration.subject
        (liveDeclarations t { record with declarations := kept } record.incarnation) k = [] ↔
      withKey CapabilityDeclaration.subject
        (liveDeclarations t' { record with declarations := kept' } record.incarnation) k = [] := by
  rw [← not_iff_not, ← Ne, published.entry_iff dated consistent found, ← Ne,
    published'.entry_iff dated consistent found]
  simp only [perm.mem_iff]

/-- An entry covers the same after two orders of publications exactly when the attribute is settled
(source the body of the loop over `grouped`). -/
lemma Published.content_eq_iff (published : Published s t uid record l added kept)
    (published' : Published s t' uid record l' added' kept') (dated : record.Dated)
    (consistent : Consistent s) (found : s.modules[uid]? = some record) (once : Once l)
    (once' : Once l') (perm : (l.map (·.stated)).Perm (l'.map (·.stated)))
    (some : withKey CapabilityDeclaration.subject
      (liveDeclarations t { record with declarations := kept } record.incarnation) k ≠ []) :
    (attributeConsensus k (withKey CapabilityDeclaration.subject
        (liveDeclarations t { record with declarations := kept } record.incarnation) k)).content =
      (attributeConsensus k (withKey CapabilityDeclaration.subject
        (liveDeclarations t' { record with declarations := kept' } record.incarnation) k)).content ↔
      Settled s record (l.map (·.stated)) (l'.map (·.stated)) k := by
  have some' : withKey CapabilityDeclaration.subject
      (liveDeclarations t' { record with declarations := kept' } record.incarnation) k ≠ [] :=
    fun none => some ((published.no_entry_iff published' dated consistent found perm k).2 none)
  have keptDated : ModuleRecord.Dated { record with declarations := kept } :=
    (published.dated dated consistent found).mono published.cut.sublist.subperm rfl
      (UInt32.le_refl _)
  have keptDated' : ModuleRecord.Dated { record with declarations := kept' } :=
    (published'.dated dated consistent found).mono published'.cut.sublist.subperm rfl
      (UInt32.le_refl _)
  have values := published.live_values dated consistent found once k
  have values' := published'.live_values dated consistent found once' k
  rw [← standing_perm perm] at values'
  have tallies := Reading.tally_reordered_iff (R := declarationReading)
    (fun _ _ => CapabilityValue.equal_symm) (fun _ _ _ => CapabilityValue.equal_trans)
    (keptDated.authors (s := t) k) (keptDated'.authors (s := t') k) some some' values values'
    ((perm.filter _).map _)
  rw [Ne, List.map_eq_nil_iff, liveSorted_standing_eq_nil] at tallies
  exact Iff.trans ⟨fun same => (Prod.mk.inj same).2, fun same => Prod.ext rfl same⟩ tallies

/-- An attribute without an entry is settled: it is not published (source `grouped`). -/
lemma Published.settled_of_no_entry (published : Published s t uid record l added kept)
    (dated : record.Dated) (consistent : Consistent s) (found : s.modules[uid]? = some record)
    (perm : (l.map (·.stated)).Perm (l'.map (·.stated)))
    (none : withKey CapabilityDeclaration.subject
      (liveDeclarations t { record with declarations := kept } record.incarnation) k = []) :
    Settled s record (l.map (·.stated)) (l'.map (·.stated)) k := by
  have unpublished : publishedValues (l.map (·.stated)) k = [] := by
    rw [publishedValues, List.map_eq_nil_iff, List.filter_eq_nil_iff]
    intro p member about
    exact (published.entry_iff dated consistent found).2
      (.inr ⟨p, member, of_decide_eq_true about⟩) none
  have values : (publishedValues (l.map (·.stated)) k).Perm (publishedValues (l'.map (·.stated)) k) :=
    (perm.filter _).map _
  rw [unpublished] at values
  exact .inr (.inr (by rw [unpublished, values.nil_eq]))

end Orders

section Runs

/-- The view of a module that is at the incarnation of the handle (source
`Registry::capabilities`). -/
lemma capabilities_eq_ok {s : State} {module : ModuleHandle} {view : CapabilityView} :
    capabilities s module = .ok view ↔ ∃ record, s.modules[module.uid]? = some record ∧
      incarnationIsCurrent record module.incarnation = true ∧
      view = viewOf true record.uid record.incarnation TextKey.none s.generation
        (buildCapabilityConsensus (liveDeclarations s record record.incarnation)) := by
  simp only [capabilities, queriedModule, bind_eq_ok, orRefuse_eq_ok, refuseIf_eq_ok,
    Bool.not_eq_false]
  constructor
  · rintro ⟨record, ⟨_, found, _, current, e⟩, e'⟩
    cases e
    cases e'
    exact ⟨record, found, current, rfl⟩
  · rintro ⟨record, found, current, rfl⟩
    exact ⟨record, ⟨record, found, (), current, rfl⟩, rfl⟩

/-- A module that is known after publications about it was known before. -/
lemma known_of_run [StdSort] {config : RegistryConfig} {s t : State} {uid : ModuleUid}
    {l : List Publishing} (on : ∀ p ∈ l, p.module.uid = uid)
    (run : runGuarded (step config) (fun s _ => NoWrap s) (l.map Publishing.call) s = some t)
    {record : ModuleRecord} (found : t.modules[uid]? = some record) :
    ∃ record, s.modules[uid]? = some record := by
  cases l with
  | nil =>
    obtain rfl : s = t := by simpa [runGuarded] using run
    exact ⟨record, found⟩
  | cons p l =>
    obtain ⟨_, u, taken, _⟩ := runGuarded_cons_eq_some.1 run
    obtain ⟨_, before, _, _, known, _⟩ := step_publishing taken
    rw [on p List.mem_cons_self] at known
    exact ⟨before, known⟩

/-- Two orders of publications of a source about different attributes. -/
lemma Once.perm {l l' : List Publishing} (once : Once l)
    (perm : (l.map (·.stated)).Perm (l'.map (·.stated))) : Once l' := by
  have names := (perm.map fun p => (p.told.1, p.told.2.1)).nodup_iff
  simp only [List.map_map] at names
  exact names.1 once

/-- The view of a module whose declarations differ from those of a view at most: it covers what its
declarations say, and it has the same digest when it covers the same. -/
lemma view_of_stored {t t' : State} {module : ModuleHandle} {record : ModuleRecord}
    {kept kept' : List CapabilityDeclaration} {view : CapabilityView}
    (stored : t.modules[module.uid]? = some { record with declarations := kept })
    (stored' : t'.modules[module.uid]? = some { record with declarations := kept' })
    (shown : capabilities t module = .ok view) :
    ∃ view', capabilities t' module = .ok view' ∧
      view.content = (buildCapabilityConsensus (liveDeclarations t
        { record with declarations := kept } record.incarnation)).map (·.content) ∧
      view'.content = (buildCapabilityConsensus (liveDeclarations t'
        { record with declarations := kept' } record.incarnation)).map (·.content) ∧
      (view.content = view'.content → view.digest = view'.digest) := by
  obtain ⟨before, found, current, rfl⟩ := capabilities_eq_ok.1 shown
  obtain rfl := Option.some.inj (stored.symm.trans found)
  refine ⟨_, capabilities_eq_ok.2 ⟨_, stored', current, rfl⟩, rfl, rfl, fun same => ?_⟩
  have same : (buildCapabilityConsensus (liveDeclarations t
      { record with declarations := kept } record.incarnation)).map (·.content) =
    (buildCapabilityConsensus (liveDeclarations t'
      { record with declarations := kept' } record.incarnation)).map (·.content) := same
  show digestCapabilityAttributes _ = digestCapabilityAttributes _
  rw [digest_of_content, digest_of_content, same]

/-- Two orders of publications about a module leave declarations that cover the same exactly when
every attribute is settled (source `Registry::publish_capability`). -/
lemma contents_settled_iff [StdSort] {config : RegistryConfig} {s t t' : State} {uid : ModuleUid}
    {record : ModuleRecord} {l l' : List Publishing} (consistent : Consistent s)
    (dated : record.Dated) (found : s.modules[uid]? = some record)
    (on : ∀ p ∈ l, p.module.uid = uid) (on' : ∀ p ∈ l', p.module.uid = uid)
    (perm : (l.map (·.stated)).Perm (l'.map (·.stated))) (once : Once l)
    (run : runGuarded (step config) (fun s _ => NoWrap s) (l.map Publishing.call) s = some t)
    (run' : runGuarded (step config) (fun s _ => NoWrap s) (l'.map Publishing.call) s = some t') :
    ∃ kept kept', t.modules[uid]? = some { record with declarations := kept } ∧
      t'.modules[uid]? = some { record with declarations := kept' } ∧
      ((buildCapabilityConsensus (liveDeclarations t
          { record with declarations := kept } record.incarnation)).map (·.content) =
        (buildCapabilityConsensus (liveDeclarations t'
          { record with declarations := kept' } record.incarnation)).map (·.content) ↔
        SettledAll config s uid (l.map (·.stated)) (l'.map (·.stated))) := by
  by_cases none : config.maxClaimHistory = 0
  · obtain ⟨kept, stored, empty⟩ := published_none none found on run
    obtain ⟨kept', stored', empty'⟩ := published_none none found on' run'
    refine ⟨kept, kept', stored, stored', iff_of_true ?_ (.inl none)⟩
    cases l with
    | nil =>
      obtain rfl : l' = [] := List.map_eq_nil_iff.1 perm.symm.eq_nil
      cases run
      cases run'
      rw [empty, empty']
    | cons p l =>
      have some' : l' ≠ [] := by
        rintro rfl
        cases perm.eq_nil
      rw [empty, empty', if_neg (List.cons_ne_nil p l), if_neg some']
      rfl
  · have room : 1 ≤ config.maxClaimHistory := by
      rw [UInt32.le_iff_toNat_le]
      exact Nat.pos_of_ne_zero fun zero => none (UInt32.toNat_inj.1 zero)
    obtain ⟨added, kept, published⟩ := published_of_run room found on run
    obtain ⟨added', kept', published'⟩ := published_of_run room found on' run'
    have keys := published.no_entry_iff published' dated consistent found perm
    have settled (k) := published.content_eq_iff (k := k) published' dated consistent found once
      (once.perm perm) perm
    refine ⟨kept, kept', published.found, published'.found, (contents_eq_iff keys).trans ?_⟩
    constructor
    · intro same
      refine .inr fun before known k => ?_
      obtain rfl := Option.some.inj (found.symm.trans known)
      by_cases entry : withKey CapabilityDeclaration.subject
          (liveDeclarations t { record with declarations := kept } record.incarnation) k = []
      · exact published.settled_of_no_entry dated consistent found perm entry
      · exact (settled k entry).1 (same k entry)
    · rintro (zero | all) k entry
      · exact absurd zero none
      · exact (settled k entry).2 (all record found k)

/-- In every state that is reached while the counters have a next value: two orders of publications
about a module, in which a source publishes an attribute at most once and the sequence counter does
not wrap, lead to views with the same digest when every attribute is settled; and what the digest
covers is the same exactly then (source `CapabilityView::digest`). -/
theorem capability_digest_settled [StdSort] {config : RegistryConfig} {w : Deployment}
    (reached : Run Deployment.step (fun w event => keepsStates advances holdsCounters w event = true)
      (Deployment.fresh config) w) {module : ModuleHandle} {l l' : List Publishing}
    (on : ∀ p ∈ l, p.module.uid = module.uid) (on' : ∀ p ∈ l', p.module.uid = module.uid)
    (perm : (l.map (·.stated)).Perm (l'.map (·.stated))) (once : Once l) {t t' : State}
    (run : runGuarded (step w.config) (fun s _ => NoWrap s) (l.map Publishing.call) w.registry =
      some t)
    (run' : runGuarded (step w.config) (fun s _ => NoWrap s) (l'.map Publishing.call) w.registry =
      some t') {view : CapabilityView} (shown : capabilities t module = .ok view) :
    ∃ view', capabilities t' module = .ok view' ∧
      (SettledAll w.config w.registry module.uid (l.map (·.stated)) (l'.map (·.stated)) →
        view.digest = view'.digest) ∧
      (view.content = view'.content ↔
        SettledAll w.config w.registry module.uid (l.map (·.stated)) (l'.map (·.stated))) := by
  obtain ⟨consistent, _, dated⟩ := Run.consistent reached
  obtain ⟨_, last, _, _⟩ := capabilities_eq_ok.1 shown
  obtain ⟨record, found⟩ := known_of_run on run last
  obtain ⟨kept, kept', stored, stored', settled⟩ := contents_settled_iff consistent
    (dated module.uid record found) found on on' perm once run run'
  obtain ⟨view', shown', covers, covers', same⟩ := view_of_stored stored stored' shown
  rw [← covers, ← covers'] at settled
  exact ⟨view', shown', fun all => same (settled.2 all), settled⟩

end Runs

/-- A source publishes the highest temperature of the module in the first bay. -/
def publishesMaximum (source : SourceId) (celsius : Binary64) : Publishing where
  stated := ⟨⟨source, 1⟩, .operatingTemperatureMaxCelsius, [], .real celsius, hostEvidence⟩
  module := firstA
  policy := .autoRetry
  clock := stillClock

/-- Two sources and a module are registered. -/
def twoSources : List Event :=
  [.call registerHost, .call registerGuest, .call (registerBay bayA .ensureCurrent)]

/-- The view of the module in the first bay after publications. -/
def viewAfter (w : Deployment) (l : List Publishing) : Option CapabilityView :=
  (runGuarded (step w.config) (fun s _ => NoWrap s) (l.map Publishing.call) w.registry).bind
    fun t => (capabilities t firstA).toOption

/-- The state and the view after publications. -/
lemma of_viewAfter {w : Deployment} {l : List Publishing} {view : CapabilityView}
    (h : viewAfter w l = some view) :
    ∃ t, runGuarded (step w.config) (fun s _ => NoWrap s) (l.map Publishing.call) w.registry =
      some t ∧ capabilities t firstA = .ok view := by
  obtain ⟨t, run, shown⟩ := Option.bind_eq_some_iff.1 h
  exact ⟨t, run, toOption_eq_some.1 shown⟩

/-- Two sources that publish the same number in either order give the same digest. -/
theorem capability_digest_settled_zero : ∃ (w : Deployment) (view view' : CapabilityView),
    viewAfter w [publishesMaximum 1 ⟨0⟩, publishesMaximum 2 ⟨0⟩] = some view ∧
    viewAfter w [publishesMaximum 2 ⟨0⟩, publishesMaximum 1 ⟨0⟩] = some view' ∧
    view.digest = view'.digest := by
  have shows : (runGuarded Deployment.step (keepsStates advances holdsCounters) twoSources
      (Deployment.fresh {})).any (fun w =>
        (viewAfter w [publishesMaximum 1 ⟨0⟩, publishesMaximum 2 ⟨0⟩]).isSome &&
          (viewAfter w [publishesMaximum 2 ⟨0⟩, publishesMaximum 1 ⟨0⟩]).isSome) = true := by
    decide +kernel
  obtain ⟨w, reached, shows⟩ := Run.exists_ofGuarded shows
  obtain ⟨one, two⟩ := Bool.and_eq_true_iff.1 shows
  obtain ⟨view, one⟩ := Option.isSome_iff_exists.1 one
  obtain ⟨view₂, two⟩ := Option.isSome_iff_exists.1 two
  obtain ⟨t, run, shown⟩ := of_viewAfter one
  obtain ⟨t', run', shown₂⟩ := of_viewAfter two
  have swapped : ([publishesMaximum 1 ⟨0⟩, publishesMaximum 2 ⟨0⟩].map (·.stated)).Perm
    ([publishesMaximum 2 ⟨0⟩, publishesMaximum 1 ⟨0⟩].map (·.stated)) := .swap ..
  have once : Once [publishesMaximum 1 ⟨0⟩, publishesMaximum 2 ⟨0⟩] := by
    simp [Once, publishesMaximum, Publication.told]
  obtain ⟨view', shown', same, _⟩ := capability_digest_settled reached
    (by simp [publishesMaximum]) (by simp [publishesMaximum]) swapped once run run' shown
  cases shown₂.symm.trans shown'
  refine ⟨w, view, view₂, one, two, same (.inr fun record _ k => .inr (.inr ?_))⟩
  by_cases about : (CapabilityKey.operatingTemperatureMaxCelsius, ([] : Bytes)) = k
  · simp [publishedValues, publishesMaximum, Publication.subject, about]
  · simp [publishedValues, publishesMaximum, Publication.subject, about]

-- Zeros of the two signs agree but are written apart, so the digest tells which one came first.
example : (CapabilityValue.real ⟨0⟩).equal (.real ⟨0x8000000000000000⟩) = true ∧
    ((CapabilityValue.real ⟨0⟩).writeCanonical .new).bytes ≠
      ((CapabilityValue.real ⟨0x8000000000000000⟩).writeCanonical .new).bytes := by decide +kernel

end TransceiverRegistry

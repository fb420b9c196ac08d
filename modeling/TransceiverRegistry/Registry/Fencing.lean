import TransceiverRegistry.Compat.Approval
import TransceiverRegistry.Registry.Evidence
import TransceiverRegistry.Registry.Queries

/-!
# Fenced evidence

Statements about an earlier incarnation of a module, and statements of an earlier incarnation of a
source, are fenced: whatever they say, the identity, the capabilities and the compatibility of a
module stay as they are.
-/

namespace TransceiverRegistry

open Lib

/-- The claim is about this incarnation and of a source that still has its epoch. -/
def currentClaim (s : State) (incarnation : IncarnationId) (claim : IdentityClaim) : Bool :=
  claim.incarnation = incarnation && sourceIsLive s claim.source claim.sourceEpoch

/-- The declaration is about this incarnation and of a source that still has its epoch. -/
def currentDeclaration (s : State) (incarnation : IncarnationId)
    (declaration : CapabilityDeclaration) : Bool :=
  declaration.incarnation = incarnation &&
    sourceIsLive s declaration.source declaration.sourceEpoch

/-- Two records of a module differ in fenced evidence at most. -/
structure SameCurrent (s : State) (record record' : ModuleRecord) : Prop where
  incarnation : record.incarnation = record'.incarnation
  claims : record.claims.filter (currentClaim s record.incarnation) =
    record'.claims.filter (currentClaim s record.incarnation)
  declarations : record.declarations.filter (currentDeclaration s record.incarnation) =
    record'.declarations.filter (currentDeclaration s record.incarnation)

/-- Two states differ in the fenced evidence about the modules at most. -/
structure SameUnfenced (s s' : State) : Prop where
  generation : s.generation = s'.generation
  sources : s.sources = s'.sources
  ports : s.ports = s'.ports
  rules : s.rules = s'.rules
  modules : ∀ uid : ModuleUid, Option.Rel (SameCurrent s) s.modules[uid]? s'.modules[uid]?

/-- What is live of a list of marked statements is what is current and not covered. -/
lemma filter_marked {α : Type} {l : List α} (mark : Bool → α → α) {live : α → Bool}
    (own : ∀ b a, live (mark b a) = b) (about judged covered : α → Bool) :
    ((l.filter about).map fun a => mark (judged a && !covered a) a).filter live =
      ((l.filter fun a => about a && judged a).filter fun a => !covered a).map (mark true) := by
  induction l with
  | nil => rfl
  | cons a l ih =>
    cases here : about a <;> cases judges : judged a <;> cases covers : covered a <;>
      simp [here, judges, covers, own, ih]

/-- Marked statements with the same current part have the same live part. -/
lemma live_congr {α : Type} {l l' : List α} (mark : Bool → α → α) (live : α → Bool)
    (own : ∀ b a, live (mark b a) = b) {about judged : α → Bool} {covered covered' : α → Bool}
    (same : (l.filter fun a => about a && judged a) = l'.filter fun a => about a && judged a)
    (agree : ∀ a, about a = true → judged a = true → covered a = covered' a) :
    ((l.filter about).map fun a => mark (judged a && !covered a) a).filter live =
      ((l'.filter about).map fun a => mark (judged a && !covered' a) a).filter live := by
  rw [filter_marked mark own, filter_marked mark own, same]
  refine congrArg (List.map (mark true)) (List.filter_congr fun a member => ?_)
  have current := (List.mem_filter.1 member).2
  rw [Bool.and_eq_true] at current
  rw [agree a current.1 current.2]

section Live

variable {s s' : State} {record record' : ModuleRecord}

/-- The liveness of a source depends on the sources (source `source_is_live`). -/
lemma sourceIsLive_congr (sources : s.sources = s'.sources) (source : SourceId)
    (epoch : SourceEpoch) : sourceIsLive s source epoch = sourceIsLive s' source epoch := by
  rw [sourceIsLive, sources, sourceIsLive]

/-- Whether a current claim is shadowed is decided by the current claims (source
`claim_shadowed`). -/
lemma claimShadowed_of_current {claims : List IdentityClaim} {incarnation : IncarnationId}
    {claim : IdentityClaim} (current : currentClaim s incarnation claim = true) :
    claimShadowed (claims.filter (currentClaim s incarnation)) claim =
      claimShadowed claims claim := by
  refine isCovered_filter fun other covers => ?_
  obtain ⟨source, epoch, -, -, about, -⟩ := of_decide_eq_true covers
  rw [currentClaim, source, epoch, about]
  exact current

/-- A declaration shadows an earlier one (source `declaration_shadowed`, the condition). -/
def declarationShadows (other declaration : CapabilityDeclaration) : Bool :=
  declarationCovers other declaration ∧ other.port.str = declaration.port.str

/-- Whether a current declaration is shadowed is decided by the current declarations (source
`declaration_shadowed`). -/
lemma declarationShadowed_of_current {declarations : List CapabilityDeclaration}
    {incarnation : IncarnationId} {declaration : CapabilityDeclaration}
    (current : currentDeclaration s incarnation declaration = true) :
    declarationShadowed (declarations.filter (currentDeclaration s incarnation)) declaration =
      declarationShadowed declarations declaration := by
  have closed : ∀ other, declarationShadows other declaration = true →
      currentDeclaration s incarnation other = true := by
    intro other shadows
    obtain ⟨source, epoch, -, -, -, about, -⟩ := of_decide_eq_true (of_decide_eq_true shadows).1
    rw [currentDeclaration, source, epoch, about]
    exact current
  exact isCovered_filter closed

/-- The live claims about a module are decided by the current ones (source `live_claims`). -/
lemma SameCurrent.liveClaims (same : SameCurrent s record record')
    (sources : s.sources = s'.sources) :
    (liveClaims s record record.incarnation).filter (·.live) =
      (liveClaims s' record' record'.incarnation).filter (·.live) := by
  have judged : (fun claim : IdentityClaim => sourceIsLive s claim.source claim.sourceEpoch) =
      fun claim => sourceIsLive s' claim.source claim.sourceEpoch :=
    funext fun claim => sourceIsLive_congr sources _ _
  have shadowed : ∀ claim, currentClaim s record.incarnation claim = true →
      claimShadowed record.claims claim = claimShadowed record'.claims claim := by
    intro claim current
    rw [← claimShadowed_of_current current, same.claims, claimShadowed_of_current current]
  have live := live_congr (fun b claim => { claim with live := b }) (·.live)
    (fun _ _ => rfl) same.claims
    fun claim about judged => shadowed claim (by rw [currentClaim, about, judged]; rfl)
  rw [TransceiverRegistry.liveClaims, live, TransceiverRegistry.liveClaims, ← same.incarnation]
  simp only [sourceIsLive_congr sources]

/-- The live declarations about a module are decided by the current ones (source
`live_declarations`). -/
lemma SameCurrent.liveDeclarations (same : SameCurrent s record record')
    (sources : s.sources = s'.sources) :
    (liveDeclarations s record record.incarnation).filter (·.live) =
      (liveDeclarations s' record' record'.incarnation).filter (·.live) := by
  have shadowed : ∀ declaration, currentDeclaration s record.incarnation declaration = true →
      declarationShadowed record.declarations declaration =
        declarationShadowed record'.declarations declaration := by
    intro declaration current
    rw [← declarationShadowed_of_current current, same.declarations,
      declarationShadowed_of_current current]
  have live := live_congr (fun b declaration => { declaration with live := b }) (·.live)
    (fun _ _ => rfl) same.declarations
    fun declaration about judged =>
      shadowed declaration (by rw [currentDeclaration, about, judged]; rfl)
  rw [TransceiverRegistry.liveDeclarations, live, TransceiverRegistry.liveDeclarations,
    ← same.incarnation]
  simp only [sourceIsLive_congr sources]

end Live

/-- Whether an entry has a value, the value, and whether its sources disagree; an attribute without an
entry has no value and no disagreement. -/
def fieldReading : Option FieldConsensus → Bool × Bytes × Bool
  | some consensus => (consensus.hasValue, consensus.value, consensus.conflicted)
  | none => (false, [], false)

/-- Whether an entry has a value, the value, and whether its sources disagree; an attribute without an
entry has no value and no disagreement. -/
def attributeReading : Option CapabilityConsensus → Bool × CapabilityValue × Bool
  | some consensus => (consensus.hasValue, consensus.value, consensus.conflicted)
  | none => (false, .none, false)

/-- What a view says about every field. -/
def IdentityView.reads (view : IdentityView) (field : IdentityField) (subkey : Bytes) :
    Bool × Bytes × Bool :=
  fieldReading (view.find field subkey)

/-- What a view says about every attribute. -/
def CapabilityView.reads (view : CapabilityView) (key : CapabilityKey) (subkey : Bytes) :
    Bool × CapabilityValue × Bool :=
  attributeReading (view.find key subkey)

section Read

variable {α β ε γ : Type} {R : Reading α β} {l l' : List α}

/-- Whether statements have a value, the value, and whether their sources disagree. -/
def Reading.summary (R : Reading α β) (group : List α) : Bool × β × Bool :=
  let tally := R.tally group
  (tally.hasValue, tally.value, decide (tally.outcome = .conflicting))

/-- What the entry of an attribute says is what the tally of the statements about it says (source
`IdentityView::find`, `CapabilityView::find`). -/
lemma read_find? [WireEnum ε] [DecidableEq ε] {subject : α → ε × Bytes}
    {entry : ε × Bytes → List α → γ} {about : γ → ε × Bytes} {read : Option γ → Bool × β × Bool}
    (own : ∀ k group, about (entry k group) = k)
    (found : ∀ k group, read (some (entry k group)) = R.summary group)
    (without : read none = R.summary []) (k : ε × Bytes) :
    read (((groupBy compareAttribute subject l).toList.map fun group =>
      entry group.1 group.2).find? fun e => about e = k) = R.summary (withKey subject l k) := by
  rw [find?_entries own]
  split
  · rename_i none
    rw [none, without]
  · exact found _ _

/-- The live statements decide what the tally of those about an attribute says. -/
lemma Reading.summary_congr {κ : Type} [DecidableEq κ] {subject : α → κ}
    (same : l.filter R.live = l'.filter R.live) (k : κ) :
    R.summary (withKey subject l k) = R.summary (withKey subject l' k) := by
  have live : (withKey subject l k).filter R.live = (withKey subject l' k).filter R.live := by
    rw [withKey, List.filter_comm, same, List.filter_comm, withKey]
  obtain ⟨conflicting, hasValue, value⟩ := R.tally_of_live live
  simp only [summary, hasValue, value, conflicting]

/-- What the entry of a field says is what the tally of its claims says. -/
lemma fieldReading_find? (claims : List IdentityClaim) (field : IdentityField) (subkey : Bytes) :
    fieldReading ((buildIdentityConsensus claims).find? fun consensus =>
      consensus.field = field ∧ consensus.subkey = subkey) =
    claimReading.summary (withKey IdentityClaim.subject claims (field, subkey)) := by
  have own : ∀ k group, (fieldConsensus k group).subject = k := fun _ _ => rfl
  have found : ∀ k group, fieldReading (some (fieldConsensus k group)) = claimReading.summary group :=
    fun _ _ => rfl
  have without : fieldReading none = claimReading.summary [] := rfl
  rw [← read_find? own found without]
  exact congrArg (fun p => fieldReading (List.find? p _))
    (funext fun _ => decide_eq_decide.2 Prod.mk_inj.symm)

/-- What the entry of an attribute says is what the tally of its declarations says. -/
lemma attributeReading_find? (declarations : List CapabilityDeclaration) (key : CapabilityKey)
    (subkey : Bytes) :
    attributeReading ((buildCapabilityConsensus declarations).find? fun consensus =>
      consensus.key = key ∧ consensus.subkey = subkey) =
    declarationReading.summary
      (withKey CapabilityDeclaration.subject declarations (key, subkey)) := by
  have own : ∀ k group, (attributeConsensus k group).subject = k := fun _ _ => rfl
  have found : ∀ k group,
      attributeReading (some (attributeConsensus k group)) = declarationReading.summary group :=
    fun _ _ => rfl
  have without : attributeReading none = declarationReading.summary [] := rfl
  rw [← read_find? own found without]
  exact congrArg (fun p => attributeReading (List.find? p _))
    (funext fun _ => decide_eq_decide.2 Prod.mk_inj.symm)

/-- An entry that has a value is established (source `CapabilityConsensus::established`). -/
lemma established_of_mem {declarations : List CapabilityDeclaration}
    {consensus : CapabilityConsensus} (member : consensus ∈ buildCapabilityConsensus declarations) :
    consensus.established = consensus.hasValue := by
  have own : ∀ k group, (attributeConsensus k group).subject = k := fun _ _ => rfl
  obtain ⟨k, group, rfl⟩ : ∃ k group, consensus = attributeConsensus k group :=
    ⟨_, _, eq_of_mem_entries own member⟩
  change ((declarationReading.tally group).hasValue &&
    (decide ((declarationReading.tally group).outcome = .agreed) ||
      decide ((declarationReading.tally group).outcome = .singleSource))) =
    (declarationReading.tally group).hasValue
  cases known : (declarationReading.tally group).hasValue with
  | false => rfl
  | true => simpa using declarationReading.tally_established known

end Read

section Compatibility

variable {s s' : State} {record record' : ModuleRecord} {port : PortKey}

/-- The attributes of a subject are the consensus of declarations (source
`Registry::query_compatibility`). -/
lemma mem_subjectAttributes {subject : RequirementSubject} {consensus : CapabilityConsensus}
    (member : consensus ∈ subjectAttributes s record port subject) :
    ∃ declarations, consensus ∈ buildCapabilityConsensus declarations := by
  cases subject with
  | module => exact ⟨_, member⟩
  | port =>
    rw [subjectAttributes] at member
    cases found : s.ports[port.str]? with
    | none =>
      rw [found] at member
      cases member
    | some record =>
      rw [found] at member
      exact ⟨_, member⟩

/-- An attribute is established for a query when the entry of its subject has a value (source
`Registry::query_compatibility`, `resolver`). -/
lemma queryResolver_establishes {subject : RequirementSubject} {key : CapabilityKey} {subkey : Bytes}
    {value : CapabilityValue} :
    (queryResolver s record port).Establishes subject key subkey value ↔
      ∃ conflicted, attributeReading ((subjectAttributes s record port subject).find?
        fun consensus => consensus.key = key ∧ consensus.subkey = subkey) =
          (true, value, conflicted) := by
  constructor
  · rintro ⟨resolve, answer, e, found, established, rfl⟩
    cases e
    have known : answer.hasValue = true := (Bool.and_eq_true_iff.1 established).1
    have entry : (subjectAttributes s record port subject).find? (fun consensus =>
        consensus.key = key ∧ consensus.subkey = subkey) = some answer := found
    refine ⟨answer.conflicted, ?_⟩
    rw [entry, attributeReading, known]
  · rintro ⟨conflicted, reading⟩
    cases found : (subjectAttributes s record port subject).find?
        fun consensus => consensus.key = key ∧ consensus.subkey = subkey with
    | none =>
      rw [found] at reading
      cases reading
    | some answer =>
      rw [found, attributeReading, Prod.mk.injEq, Prod.mk.injEq] at reading
      obtain ⟨declarations, member⟩ := mem_subjectAttributes (List.mem_of_find?_eq_some found)
      refine ⟨_, answer, rfl, found, ?_, reading.2.1⟩
      rw [established_of_mem member, reading.1]

/-- The readings of the subjects of a query do not depend on fenced evidence. -/
lemma SameCurrent.subjectAttributes (same : SameCurrent s record record')
    (sources : s.sources = s'.sources) (ports : s.ports = s'.ports) (subject : RequirementSubject)
    (key : CapabilityKey) (subkey : Bytes) :
    attributeReading ((subjectAttributes s record port subject).find? fun consensus =>
      consensus.key = key ∧ consensus.subkey = subkey) =
    attributeReading ((subjectAttributes s' record' port subject).find? fun consensus =>
      consensus.key = key ∧ consensus.subkey = subkey) := by
  cases subject with
  | module =>
    rw [TransceiverRegistry.subjectAttributes, attributeReading_find?,
      Reading.summary_congr (same.liveDeclarations sources), ← attributeReading_find?]
    rfl
  | port =>
    have port : livePortDeclarations s = livePortDeclarations s' := by
      funext record
      simp only [livePortDeclarations, sourceIsLive_congr sources]
    rw [TransceiverRegistry.subjectAttributes, port, ports]
    rfl

/-- What a query establishes does not depend on fenced evidence. -/
lemma SameCurrent.extendedBy (same : SameCurrent s record record')
    (sources : s.sources = s'.sources) (ports : s.ports = s'.ports) :
    (queryResolver s record port).ExtendedBy (queryResolver s' record' port) ∧
      (queryResolver s' record' port).ExtendedBy (queryResolver s record port) := by
  constructor
  · intro subject key subkey value known
    rw [queryResolver_establishes] at known ⊢
    rwa [← same.subjectAttributes sources ports]
  · intro subject key subkey value known
    rw [queryResolver_establishes] at known ⊢
    rwa [same.subjectAttributes sources ports]

/-- A query finds modules that differ in fenced evidence at most, or fails the same way. -/
lemma SameUnfenced.queriedModule (same : SameUnfenced s s') (uid : ModuleUid)
    (incarnation : IncarnationId) (replaced : String) :
    (∃ e, queriedModule s uid incarnation replaced = .error e ∧
      queriedModule s' uid incarnation replaced = .error e) ∨
    ∃ record record', queriedModule s uid incarnation replaced = .ok record ∧
      queriedModule s' uid incarnation replaced = .ok record' ∧ SameCurrent s record record' := by
  have here := same.modules uid
  unfold TransceiverRegistry.queriedModule
  cases found : s.modules[uid]? with
  | none =>
    cases found' : s'.modules[uid]? with
    | none => exact .inl ⟨_, rfl, rfl⟩
    | some record' =>
      rw [found, found'] at here
      cases here
  | some record =>
    cases found' : s'.modules[uid]? with
    | none =>
      rw [found, found'] at here
      cases here
    | some record' =>
      rw [found, found'] at here
      cases here with
      | some evidence =>
        have current : incarnationIsCurrent record incarnation =
            incarnationIsCurrent record' incarnation := by
          rw [incarnationIsCurrent, evidence.incarnation, incarnationIsCurrent]
        rw [orRefuse, orRefuse, ok_bind, ok_bind, current]
        cases checked : refuseIf (incarnationIsCurrent record' incarnation = false)
            (makeError .fenced replaced) with
        | error e => exact .inl ⟨e, rfl, rfl⟩
        | ok _ => exact .inr ⟨record, record', rfl, rfl, evidence⟩


/-- The identity of a module does not depend on fenced evidence (source `Registry::identity`). -/
lemma SameUnfenced.identity (same : SameUnfenced s s') (module : ModuleHandle) :
    (identity s module).map IdentityView.reads = (identity s' module).map IdentityView.reads := by
  rw [TransceiverRegistry.identity, TransceiverRegistry.identity]
  obtain ⟨e, here, there⟩ | ⟨record, record', here, there, evidence⟩ :=
    same.queriedModule module.uid module.incarnation _
  · rw [here, there]
    rfl
  · rw [here, there, ok_bind, ok_bind]
    refine congrArg Except.ok (funext₂ fun field subkey => ?_)
    exact (fieldReading_find? _ field subkey).trans
      ((Reading.summary_congr (evidence.liveClaims same.sources) _).trans
        (fieldReading_find? _ field subkey).symm)

/-- The capabilities of a module do not depend on fenced evidence (source
`Registry::capabilities`). -/
lemma SameUnfenced.capabilities (same : SameUnfenced s s') (module : ModuleHandle) :
    (capabilities s module).map CapabilityView.reads =
      (capabilities s' module).map CapabilityView.reads := by
  rw [TransceiverRegistry.capabilities, TransceiverRegistry.capabilities]
  obtain ⟨e, here, there⟩ | ⟨record, record', here, there, evidence⟩ :=
    same.queriedModule module.uid module.incarnation _
  · rw [here, there]
    rfl
  · rw [here, there, ok_bind, ok_bind]
    refine congrArg Except.ok (funext₂ fun key subkey => ?_)
    exact (attributeReading_find? _ key subkey).trans
      ((Reading.summary_congr (evidence.liveDeclarations same.sources) _).trans
        (attributeReading_find? _ key subkey).symm)

/-- The outcome of a compatibility query does not depend on fenced evidence (source
`Registry::query_compatibility`). -/
lemma SameUnfenced.queryCompatibility [StdSort] (same : SameUnfenced s s') (query : CompatQuery)
    (now now' : WallNs) (domain domain' : ClockDomainId) :
    (queryCompatibility now domain s query).map (·.outcome) =
      (queryCompatibility now' domain' s' query).map (·.outcome) := by
  rw [TransceiverRegistry.queryCompatibility, TransceiverRegistry.queryCompatibility,
    same.generation, liveRules, same.rules, liveRules]
  generalize refuseIf (query.uid = 0 ∨ query.incarnation = 0) _ = named
  cases named with
  | error e => rw [error_bind, error_bind]
  | ok _ =>
    generalize refuseIf (query.port.str = []) _ = hosted
    cases hosted with
    | error e => rw [ok_bind, ok_bind, error_bind, error_bind]
    | ok _ =>
      generalize refuseIf (query.requireLatestGeneration = true ∧ query.expectedGeneration ≠ 0 ∧
        query.expectedGeneration ≠ s'.generation) _ = fenced
      cases fenced with
      | error e => rw [ok_bind, ok_bind, ok_bind, ok_bind, error_bind, error_bind]
      | ok _ =>
        rw [ok_bind, ok_bind, ok_bind, ok_bind, ok_bind, ok_bind]
        obtain ⟨e, here, there⟩ | ⟨record, record', here, there, evidence⟩ :=
          same.queriedModule query.uid query.incarnation _
        · rw [here, there, error_bind, error_bind]
        · rw [here, there, ok_bind, ok_bind]
          obtain ⟨more, less⟩ := evidence.extendedBy same.sources same.ports
          exact congrArg Except.ok (outcome_congr more less)

end Compatibility

/-- Fenced evidence decides nothing: states that differ in it at most give the same identity, the same
capabilities and the same outcome of every compatibility query (source `Registry::identity`,
`Registry::capabilities`, `Registry::query_compatibility`). -/
theorem fenced_evidence_decides_nothing [StdSort] {s s' : State} (same : SameUnfenced s s')
    (module : ModuleHandle) (query : CompatQuery) (now now' : WallNs)
    (domain domain' : ClockDomainId) :
    (identity s module).map IdentityView.reads = (identity s' module).map IdentityView.reads ∧
    (capabilities s module).map CapabilityView.reads =
      (capabilities s' module).map CapabilityView.reads ∧
    (queryCompatibility now domain s query).map (·.outcome) =
      (queryCompatibility now' domain' s' query).map (·.outcome) :=
  ⟨same.identity module, same.capabilities module,
    same.queryCompatibility query now now' domain domain'⟩

/-- A registry with one source and one module, both at their first incarnation. -/
def witnessed (claims : List IdentityClaim) : State :=
  { State.initial with
    sources := (∅ : Std.ExtTreeMap UInt32 SourceRecord compare).insert 1
      ⟨1, text "bench", 1, ⟨text "bench", [], .synthetic, []⟩, 1, 1, 0⟩
    modules := (∅ : Std.ExtTreeMap UInt64 ModuleRecord compare).insert 1
      { discoveredModule ⟨1, 1⟩ 1 1 0 TextKey.none 1 with claims } }

/-- A claim about an earlier module, a claim that is heard, and a claim of an earlier source process. -/
def mixedClaims : List IdentityClaim :=
  [{ serialClaim 1 2 "B" with incarnation := 0 }, serialClaim 1 3 "A",
    { serialClaim 1 4 "C" with sourceEpoch := 0 }]

/-- Claims about earlier modules and claims of earlier source processes are not heard. -/
theorem fenced_evidence_decides_nothing_here :
    (identity (witnessed mixedClaims) ⟨1, 1, 0, TextKey.none⟩).map IdentityView.reads =
      (identity (witnessed [serialClaim 1 3 "A"]) ⟨1, 1, 0, TextKey.none⟩).map
        IdentityView.reads := by
  have same : SameUnfenced (witnessed mixedClaims) (witnessed [serialClaim 1 3 "A"]) := by
    refine ⟨rfl, rfl, rfl, rfl, fun uid => ?_⟩
    rw [witnessed, witnessed, Std.ExtTreeMap.getElem?_insert, Std.ExtTreeMap.getElem?_insert]
    split
    · exact .some ⟨rfl, by decide +kernel, rfl⟩
    · simp
  exact (fenced_evidence_decides_nothing same _ ⟨TextKey.none, 1, 1, true, 0, 1024⟩ 0 0 0 0).1

end TransceiverRegistry

import TransceiverRegistry.Lib.Grouping
import TransceiverRegistry.Model.Consensus
import TransceiverRegistry.Model.Tally

/-!
# Identity and capability consensus

Port of `build_identity_consensus` of `identity.cpp` and of `build_capability_consensus` of
`capability.cpp`: the statements are grouped by attribute, and the tally of every group is an entry.
Both are one grouping with two readings. The helpers `write_declaration_canonical` and
`sorted_live_declarations`, which nothing calls, are not modelled.
-/

namespace TransceiverRegistry

open Lib

/-- The order of attributes (source `std::map<std::pair<std::uint8_t, std::string>, ...>`). -/
def compareAttribute {ε : Type} [WireEnum ε] : ε × Bytes → ε × Bytes → Ordering :=
  compareLex (compareOn fun a => code a.1) fun a b => compareBytes a.2 b.2

section Order

variable {ε : Type} [WireEnum ε]

instance : Std.TransCmp (compareAttribute (ε := ε)) := by
  have : Std.TransCmp fun a b : ε × Bytes => compareBytes a.2 b.2 :=
    { eq_swap := @fun _ _ => @Std.OrientedCmp.eq_swap _ compareBytes _ _ _
      isLE_trans := @fun _ _ _ => @Std.TransCmp.isLE_trans _ compareBytes _ _ _ _ }
  unfold compareAttribute
  infer_instance

instance : Std.LawfulEqCmp (compareAttribute (ε := ε)) where
  eq_of_compare {a b} h := by
    simp only [compareAttribute, compareLex, compareOn, Ordering.then_eq_eq,
      Std.LawfulEqCmp.compare_eq_iff_eq] at h
    exact Prod.ext (code_injective h.1) h.2

end Order

/-- What the live claims of one identity field agree on (source `FieldConsensus`). -/
structure FieldConsensus where
  field : IdentityField
  subkey : Bytes
  outcome : ConsensusOutcome
  hasValue : Bool
  value : Bytes
  claims : List IdentityClaim
  supersededClaims : List IdentityClaim
  digest : Digest

/-- The attribute a claim is about (source the key of `grouped`). -/
def IdentityClaim.subject (claim : IdentityClaim) : IdentityField × Bytes :=
  (claim.field, claim.subkey)

/-- The attribute a declaration is about (source the key of `grouped`). -/
def CapabilityDeclaration.subject (declaration : CapabilityDeclaration) : CapabilityKey × Bytes :=
  (declaration.key, declaration.subkey)

/-- What the consensus reads of a claim (source `build_identity_consensus`). -/
def claimReading : Reading IdentityClaim Bytes where
  live := (·.live)
  sequence := (·.sequence)
  author claim := (claim.source, claim.sourceEpoch)
  value := (·.value)
  equal a b := a = b
  blank := []

/-- What the consensus reads of a declaration (source `build_capability_consensus`). -/
def declarationReading : Reading CapabilityDeclaration CapabilityValue where
  live := (·.live)
  sequence := (·.sequence)
  author declaration := (declaration.source, declaration.sourceEpoch)
  value := (·.value)
  equal := CapabilityValue.equal
  blank := .none

/-- Write one claim for the digest (source `write_claim_canonical`). -/
def writeClaimCanonical (w : CanonicalWriter) (claim : IdentityClaim) : CanonicalWriter :=
  let w := ((w.beginObject 8).field (text "epoch")).integer (Int64.ofNat claim.sourceEpoch.toNat)
  let w := (w.field (text "generation")).integer claim.generation.toInt64
  let w := (w.field (text "observed_at")).integer claim.observedAtWallNs
  let w := (w.field (text "origin")).text claim.provenance.origin
  let w := (w.field (text "sequence")).integer claim.sequence.toInt64
  let w := (w.field (text "source")).integer (Int64.ofNat claim.source.toNat)
  let w := (w.field (text "value")).text claim.value
  (w.field (text "provenance_kind")).integer (Int64.ofNat (code claim.provenance.kind))

/-- The identity of the live claims of a field (source `digest_live_claims`). -/
def digestLiveClaims (claims : List IdentityClaim) : Digest :=
  (claims.foldl writeClaimCanonical (CanonicalWriter.new.beginArray claims.length)).digest

/-- The entry of one identity field (source `build_identity_consensus`, the loop). -/
def fieldConsensus (key : IdentityField × Bytes) (claims : List IdentityClaim) :
    FieldConsensus :=
  let tally := claimReading.tally claims
  { field := key.1, subkey := key.2, outcome := tally.outcome
    hasValue := tally.hasValue, value := tally.value, claims := tally.kept
    supersededClaims := tally.superseded, digest := digestLiveClaims tally.kept }

/-- The consensus of claims (source `build_identity_consensus`). -/
def buildIdentityConsensus (claims : List IdentityClaim) : List FieldConsensus :=
  (groupBy compareAttribute IdentityClaim.subject claims).toList.map fun group =>
    fieldConsensus group.1 group.2

/-- The identity of a capability entry (source `build_capability_consensus`, the writer). -/
def CapabilityConsensus.digestOf (consensus : CapabilityConsensus) : Digest :=
  let w := ((CanonicalWriter.new.beginObject 4).field (text "key")).integer
    (Int64.ofNat (code consensus.key))
  let w := (w.field (text "outcome")).integer (Int64.ofNat (code consensus.outcome))
  let w := ((w.field (text "subkey")).text consensus.subkey).field (text "value")
  (if consensus.hasValue then consensus.value.writeCanonical w else w.nullValue).digest

/-- The entry of one capability attribute (source `build_capability_consensus`, the loop). -/
def attributeConsensus (key : CapabilityKey × Bytes)
    (declarations : List CapabilityDeclaration) : CapabilityConsensus :=
  let tally := declarationReading.tally declarations
  let consensus : CapabilityConsensus := {
    key := key.1, subkey := key.2, outcome := tally.outcome
    hasValue := tally.hasValue, value := tally.value, declarations := tally.kept
    superseded := tally.superseded, digest := Digest.zero }
  { consensus with digest := consensus.digestOf }

/-- The consensus of declarations (source `build_capability_consensus`). -/
def buildCapabilityConsensus (declarations : List CapabilityDeclaration) :
    List CapabilityConsensus :=
  (groupBy compareAttribute CapabilityDeclaration.subject declarations).toList.map fun group =>
    attributeConsensus group.1 group.2

/-- The attribute an entry is about. -/
def FieldConsensus.subject (consensus : FieldConsensus) : IdentityField × Bytes :=
  (consensus.field, consensus.subkey)

/-- The attribute an entry is about. -/
def CapabilityConsensus.subject (consensus : CapabilityConsensus) : CapabilityKey × Bytes :=
  (consensus.key, consensus.subkey)

section Entries

variable {α β ε γ : Type} [DecidableEq ε] {R : Reading α β} {subject : α → ε × Bytes}
  {l l' : List α}

/-- The statements about every attribute are told apart by their sequences. -/
def TellsApart (R : Reading α β) (subject : α → ε × Bytes) (l : List α) : Prop :=
  l.Pairwise fun a b => subject a = subject b → R.sequence a ≠ R.sequence b

/-- The statements about one attribute are told apart by their sequences. -/
lemma TellsApart.distinct (apart : TellsApart R subject l) (k : ε × Bytes) :
    R.Distinct (withKey subject l k) := by
  refine (apart.filter _).imp_of_mem fun {a b} ha hb h => h ?_
  rw [of_decide_eq_true (List.mem_filter.1 ha).2, of_decide_eq_true (List.mem_filter.1 hb).2]

variable [WireEnum ε] {entry : ε × Bytes → List α → γ} {about : γ → ε × Bytes}

/-- There is one entry for every attribute that a statement is about (source `grouped`). -/
lemma entries_complete (own : ∀ k group, about (entry k group) = k) (k : ε × Bytes) :
    (∃ e ∈ (groupBy compareAttribute subject l).toList.map fun group => entry group.1 group.2,
      about e = k) ↔ ∃ a ∈ l, subject a = k := by
  rw [← withKey_ne_nil (l := l)]
  constructor
  · rintro ⟨e, member, rfl⟩
    obtain ⟨k, some, rfl⟩ := mem_map_groupBy.1 member
    rwa [own]
  · intro some
    exact ⟨entry k (withKey subject l k), mem_map_groupBy.2 ⟨k, some, rfl⟩, own _ _⟩

/-- An entry is made of the statements about its attribute (source the loop over `grouped`). -/
lemma eq_of_mem_entries (own : ∀ k group, about (entry k group) = k) {e : γ}
    (member : e ∈ (groupBy compareAttribute subject l).toList.map fun group =>
      entry group.1 group.2) :
    e = entry (about e) (withKey subject l (about e)) := by
  obtain ⟨k, -, rfl⟩ := mem_map_groupBy.1 member
  rw [own]

/-- The entry of an attribute is found when a statement is about it (source `IdentityView::find`,
`CapabilityView::find`). -/
lemma find?_entries (own : ∀ k group, about (entry k group) = k) (k : ε × Bytes) :
    ((groupBy compareAttribute subject l).toList.map fun group => entry group.1 group.2).find?
      (fun e => about e = k) =
    if withKey subject l k = [] then none else some (entry k (withKey subject l k)) := by
  split
  · rename_i without
    refine List.find?_eq_none.2 fun e member same => ?_
    refine withKey_ne_nil.2 ((entries_complete own k).1 ⟨e, member, of_decide_eq_true same⟩) without
  · rename_i some
    cases found : ((groupBy compareAttribute subject l).toList.map fun group =>
        entry group.1 group.2).find? (fun e => about e = k) with
    | none =>
      obtain ⟨e, member, same⟩ := (entries_complete own k).2 (withKey_ne_nil.1 some)
      exact absurd (decide_eq_true same) (List.find?_eq_none.1 found e member)
    | some e =>
      have same : about e = k := by simpa using List.find?_some found
      rw [eq_of_mem_entries own (List.mem_of_find?_eq_some found), same]

end Entries

/-- The consensus keeps, tells apart and orders what the statements say: an entry for every attribute
in ascending order, every statement once, of every source incarnation the newest live one, whatever
the order of the statements (source `build_identity_consensus`, `build_capability_consensus`). -/
theorem consensus_accounts {claims : List IdentityClaim} {declarations : List CapabilityDeclaration}
    (claimsApart : TellsApart claimReading IdentityClaim.subject claims)
    (declarationsApart : TellsApart declarationReading CapabilityDeclaration.subject declarations) :
    ((buildIdentityConsensus claims).Pairwise
        (fun a b => compareAttribute a.subject b.subject = .lt) ∧
      (∀ k, (∃ e ∈ buildIdentityConsensus claims, e.subject = k) ↔ ∃ c ∈ claims, c.subject = k) ∧
      (∀ e ∈ buildIdentityConsensus claims,
        claimReading.Accounts (withKey IdentityClaim.subject claims e.subject) e.claims
          e.supersededClaims e.outcome e.hasValue) ∧
      ∀ claims', claims.Perm claims' →
        buildIdentityConsensus claims' = buildIdentityConsensus claims) ∧
    (buildCapabilityConsensus declarations).Pairwise
        (fun a b => compareAttribute a.subject b.subject = .lt) ∧
      (∀ k, (∃ e ∈ buildCapabilityConsensus declarations, e.subject = k) ↔
        ∃ d ∈ declarations, d.subject = k) ∧
      (∀ e ∈ buildCapabilityConsensus declarations,
        declarationReading.Accounts
          (withKey CapabilityDeclaration.subject declarations e.subject) e.declarations
          e.superseded e.outcome e.hasValue) ∧
      ∀ declarations', declarations.Perm declarations' →
        buildCapabilityConsensus declarations' = buildCapabilityConsensus declarations := by
  have ownField : ∀ k group, (fieldConsensus k group).subject = k := fun _ _ => rfl
  have ownKey : ∀ k group, (attributeConsensus k group).subject = k := fun _ _ => rfl
  refine ⟨⟨pairwise_map_groupBy ownField, entries_complete ownField, fun e member => ?_,
    fun claims' perm => ?_⟩, pairwise_map_groupBy ownKey, entries_complete ownKey,
    fun e member => ?_, fun declarations' perm => ?_⟩
  · have accounts := (claimsApart.distinct e.subject).accounts
      (fun u v h => decide_eq_true (of_decide_eq_true h).symm)
      (fun u v w h h' => decide_eq_true ((of_decide_eq_true h).trans (of_decide_eq_true h')))
    have entry := eq_of_mem_entries ownField member
    rw [entry]
    exact accounts
  · refine (map_groupBy_congr perm fun k => ?_).symm
    rw [fieldConsensus, (claimsApart.distinct k).tally_congr (perm.filter _), fieldConsensus]
    rfl
  · have accounts := (declarationsApart.distinct e.subject).accounts
      (fun _ _ => CapabilityValue.equal_symm) (fun _ _ _ => CapabilityValue.equal_trans)
    have entry := eq_of_mem_entries ownKey member
    rw [entry]
    exact accounts
  · refine (map_groupBy_congr perm fun k => ?_).symm
    rw [attributeConsensus, (declarationsApart.distinct k).tally_congr (perm.filter _),
      attributeConsensus]
    rfl

/-- The provenance of the statements below. -/
def benchEvidence : Provenance := ⟨.synthetic, text "bench", [], Digest.zero, []⟩

/-- A source says which serial number a module carries. -/
def serialClaim (source : SourceId) (sequence : Sequence) (serial : String) : IdentityClaim where
  field := .serialNumber
  subkey := []
  value := text serial
  source
  sourceEpoch := 1
  module := 1
  incarnation := 1
  generation := 1
  sequence
  observedAtWallNs := 0
  clockDomain := 1
  provenance := benchEvidence
  live := true

/-- A source says how many lanes a module has. -/
def laneDeclaration (source : SourceId) (sequence : Sequence) (lanes : Int64) :
    CapabilityDeclaration where
  key := .laneCount
  subkey := []
  value := .count lanes
  source
  sourceEpoch := 1
  module := 1
  incarnation := 1
  port := TextKey.none
  moduleSubject := true
  generation := 1
  sequence
  observedAtWallNs := 0
  clockDomain := 1
  provenance := benchEvidence
  live := true

/-- Two sources that disagree are heard in either order. -/
theorem consensus_accounts_of_two :
    buildIdentityConsensus [serialClaim 2 7 "B", serialClaim 1 3 "A"] =
        buildIdentityConsensus [serialClaim 1 3 "A", serialClaim 2 7 "B"] ∧
      buildCapabilityConsensus [laneDeclaration 2 8 4, laneDeclaration 1 5 8] =
        buildCapabilityConsensus [laneDeclaration 1 5 8, laneDeclaration 2 8 4] := by
  have both := @consensus_accounts [serialClaim 1 3 "A", serialClaim 2 7 "B"]
    [laneDeclaration 1 5 8, laneDeclaration 2 8 4]
    (by simp [TellsApart, claimReading, serialClaim])
    (by simp [TellsApart, declarationReading, laneDeclaration])
  exact ⟨both.1.2.2.2 _ (.swap ..), both.2.2.2.2 _ (.swap ..)⟩

end TransceiverRegistry

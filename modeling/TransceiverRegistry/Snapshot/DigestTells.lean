import TransceiverRegistry.Compat.Inputs
import TransceiverRegistry.Snapshot.DigestOrder

/-!
# What the digest of a view tells

The digest of a view names a document of what every attribute comes to, by the digest of a document of
its own. As long as SHA-256 tells these documents apart, two orders of the same publications give one
digest exactly when every attribute is settled or cannot be written. A subkey that is not UTF-8 leaves
the whole view without a digest.
-/

namespace TransceiverRegistry

open Lib CanonicalWriter

/-- What the digest of a view covers of an attribute. -/
abbrev Content := (CapabilityKey × Bytes) × ConsensusOutcome × Option CapabilityValue

section Documents

/-- The document of an attribute (source `build_capability_consensus`, the writer). -/
def contentDocument (e : Content) : Value := .members [
  (text "key", .integer (Int64.ofNat (code e.1.1))),
  (text "outcome", .integer (Int64.ofNat (code e.2.1))),
  (text "subkey", .text e.1.2),
  (text "value", (e.2.2.map (·.document)).getD .null)]

/-- The document of an attribute in a view (source `digest_capability_attributes`, the loop). -/
def entryDocument (e : Content) : Value := .members [
  (text "digest", .binary (contentDigest e).bytes.toList),
  (text "key", .integer (Int64.ofNat (code e.1.1))),
  (text "outcome", .integer (Int64.ofNat (code e.2.1))),
  (text "subkey", .text e.1.2)]

/-- The document of a view (source `digest_capability_attributes`). -/
def viewDocument (contents : List Content) : Value := .array (contents.map entryDocument)

/-- The identity of an attribute is the digest of its document (source
`build_capability_consensus`). -/
lemma contentDigest_eq (e : Content) : contentDigest e = (new.writeValue (contentDocument e)).digest := by
  obtain ⟨⟨key, subkey⟩, outcome, value⟩ := e
  unfold contentDigest CapabilityConsensus.digestOf contentDocument
  simp only [writeValue, writeMembers, List.length_cons, List.length_nil]
  cases value with
  | none => rfl
  | some value =>
    simp only [Option.isSome_some, if_true, Option.getD_some, Option.map_some, writeCanonical_eq]

/-- An attribute is written as its document (source `digest_capability_attributes`, the loop). -/
lemma writeEntry_eq (w : CanonicalWriter) (e : Content) :
    writeEntry "key" w (contentDigest e) (code e.1.1) e.2.1 e.1.2 = w.writeValue (entryDocument e) := by
  unfold writeEntry entryDocument
  simp only [writeValue, writeMembers, List.length_cons, List.length_nil]

/-- The digest of what declarations come to is the digest of the document (source
`digest_capability_attributes`). -/
lemma digest_of_document (declarations : List CapabilityDeclaration) :
    digestCapabilityAttributes (buildCapabilityConsensus declarations) =
      (new.writeValue (viewDocument
        ((buildCapabilityConsensus declarations).map (·.content)))).digest := by
  rw [digest_of_content]
  simp only [foldl_write writeEntry_eq]
  simp only [viewDocument, writeValue, List.length_map]

/-- An attribute is written in a view when its subkey is UTF-8 (source
`digest_capability_attributes`). -/
lemma entry_written {e : Content} :
    (new.writeValue (entryDocument e)).failed = false ↔ isValidUtf8 e.1.2 = true := by
  have digest : (new.field (text "digest")).failed = false := by decide
  have bytes (b : Bytes) : (new.writeValue (.binary b)).failed = false := rfl
  have number (n : Int64) : (new.writeValue (.integer n)).failed = false := rfl
  have nothing : (new.writeMembers []).failed = false := rfl
  simp (disch := decide) only [entryDocument, object_written, writeMembers_cons (text "digest"),
    andThen, digest, bytes, members_written, number, nothing, Bool.false_or, Bool.or_false,
    text_value_written]

/-- A view is written when its subkeys are UTF-8 (source `digest_capability_attributes`). -/
lemma view_written {contents : List Content} :
    (new.writeValue (viewDocument contents)).failed = false ↔
      ∀ e ∈ contents, isValidUtf8 e.1.2 = true := by
  simp only [viewDocument, array_written, entry_written]

/-- An attribute with an accepted value is written when its texts are UTF-8 (source
`build_capability_consensus`, the writer). -/
lemma content_written {k : CapabilityKey × Bytes} {outcome : ConsensusOutcome}
    {value : CapabilityValue} (valid : value.validateFor k.1 = .ok ()) :
    (new.writeValue (contentDocument (k, outcome, some value))).failed = false ↔
      isValidUtf8 k.2 = true ∧ value.Legible := by
  simp (disch := decide) only [contentDocument, object_written, members_written,
    Bool.or_eq_false_iff, text_value_written, Option.map_some, Option.getD_some,
    document_written valid]
  exact ⟨fun h => ⟨h.2.2.1, h.2.2.2.1⟩, fun h => ⟨rfl, rfl, h.1, h.2, rfl⟩⟩

/-- An attribute is determined by its document (source `build_capability_consensus`, the writer). -/
lemma contentDocument_inj {e e' : Content} (same : contentDocument e = contentDocument e') :
    e = e' := by
  obtain ⟨⟨key, subkey⟩, outcome, value⟩ := e
  obtain ⟨⟨key', subkey'⟩, outcome', value'⟩ := e'
  simp only [contentDocument, Value.members.injEq, List.cons.injEq, Prod.mk.injEq,
    Value.integer.injEq, Value.text.injEq, true_and, and_true] at same
  obtain ⟨keys, outcomes, rfl, values⟩ := same
  obtain rfl := ofNat_code_inj keys
  obtain rfl := ofNat_code_inj outcomes
  cases value with
  | none =>
    cases value' with
    | none => rfl
    | some value' => cases value' <;> cases values
  | some value =>
    cases value' with
    | none => cases value <;> cases values
    | some value' => rw [CapabilityValue.document_inj values]

/-- An attribute in a view is determined by its document, up to what is behind its digest (source
`digest_capability_attributes`, the loop). -/
lemma entryDocument_inj {e e' : Content} :
    entryDocument e = entryDocument e' ↔
      e.1 = e'.1 ∧ e.2.1 = e'.2.1 ∧ contentDigest e = contentDigest e' := by
  constructor
  · intro same
    simp only [entryDocument, Value.members.injEq, List.cons.injEq, Prod.mk.injEq,
      Value.integer.injEq, Value.text.injEq, Value.binary.injEq, true_and, and_true] at same
    obtain ⟨digests, keys, outcomes, subkeys⟩ := same
    refine ⟨Prod.ext (ofNat_code_inj keys) subkeys, ofNat_code_inj outcomes, ?_⟩
    have bytes := Vector.toList_inj.1 digests
    cases h : contentDigest e
    cases h' : contentDigest e'
    rw [h, h'] at bytes
    exact congrArg Digest.mk bytes
  · rintro ⟨keys, outcomes, digests⟩
    rw [entryDocument, entryDocument, keys, outcomes, digests]

/-- SHA-256 tells the documents of two views apart, and those of every attribute in both (source
`sha256`). -/
structure ContentsApart (contents contents' : List Content) : Prop where
  whole : CollisionFree (viewDocument contents) (viewDocument contents')
  each : ∀ e ∈ contents, ∀ e' ∈ contents', e.1 = e'.1 →
    CollisionFree (contentDocument e) (contentDocument e')

/-- Attributes that SHA-256 tells apart have one digest when they are the same, or when neither is
written (source `CanonicalWriter::digest`). -/
lemma contentDigest_eq_iff {e e' : Content} (free : CollisionFree (contentDocument e)
    (contentDocument e')) : contentDigest e = contentDigest e' ↔ e = e' ∨
      (new.writeValue (contentDocument e)).failed = true ∧
        (new.writeValue (contentDocument e')).failed = true := by
  rw [contentDigest_eq, contentDigest_eq]
  constructor
  · intro same
    by_contra neither
    obtain ⟨differ, written⟩ := not_or.1 neither
    rw [← Bool.not_eq_false, ← Bool.not_eq_false, ← not_or, not_not] at written
    exact differ (contentDocument_inj (free.eq written same))
  · rintro (rfl | ⟨failed, failed'⟩)
    · rfl
    · rw [CanonicalWriter.digest, CanonicalWriter.digest, if_pos failed, if_pos failed']

end Documents

/-- An attribute is told alike after two orders of publications: it is settled, or one of the
published values is a text that is not UTF-8. -/
def ToldAlike (s : State) (record : ModuleRecord) (l l' : List Publication)
    (k : CapabilityKey × Bytes) : Prop :=
  Settled s record l l' k ∨ ∃ value ∈ publishedValues l k, ¬ value.Legible

/-- A current declaration of the module, or a publication, has a subkey that is not UTF-8. -/
def IllegibleSubkey (record : ModuleRecord) (l : List Publication) : Prop :=
  ∃ k : CapabilityKey × Bytes, isValidUtf8 k.2 = false ∧
    ((∃ d ∈ record.declarations, d.incarnation = record.incarnation ∧ d.subject = k) ∨
      ∃ p ∈ l, p.subject = k)

/-- The registry keeps no history and drops all declarations, or the view has no digest, or every
attribute of the module is told alike. -/
def AllToldAlike (config : RegistryConfig) (s : State) (uid : ModuleUid) (l l' : List Publication) :
    Prop :=
  config.maxClaimHistory = 0 ∨ ∀ record, s.modules[uid]? = some record →
    IllegibleSubkey record l ∨ ∀ k, ToldAlike s record l l' k

/-- Equal values are UTF-8 alike (source `capability_values_equal`). -/
lemma legible_of_equal {a b : CapabilityValue} (same : a.equal b = true) (legible : a.Legible) :
    b.Legible := by
  obtain rfl | ⟨x, y, rfl, rfl, _⟩ | ⟨x, y, rfl, rfl, each⟩ := CapabilityValue.equal_cases same
  · exact legible
  · trivial
  · have legible : ∀ d ∈ x.values, isValidUtf8 d.channel = true := legible
    show ∀ d ∈ y.values, isValidUtf8 d.channel = true
    generalize x.values = xs at legible each
    generalize y.values = ys at each
    induction each with
    | nil => exact fun _ member => (List.not_mem_nil member).elim
    | @cons c d _ _ alike _ ih =>
      rw [List.forall_mem_cons] at legible ⊢
      have channel : c.channel = d.channel := by
        simp only [SpectrumDescriptor.eq, Bool.and_eq_true, decide_eq_true_eq] at alike
        exact alike.2
      exact ⟨channel ▸ legible.1, ih legible.2⟩

section Attributes

variable {s t t' : State} {uid : ModuleUid} {record : ModuleRecord} {l l' : List Publishing}
  {added added' kept kept' : List CapabilityDeclaration} {k : CapabilityKey × Bytes}

/-- What the digest covers of an attribute after publications. -/
def contentAfter (t : State) (record : ModuleRecord) (kept : List CapabilityDeclaration)
    (k : CapabilityKey × Bytes) : Content :=
  (attributeConsensus k (withKey CapabilityDeclaration.subject
    (liveDeclarations t { record with declarations := kept } record.incarnation) k)).content

/-- What the digest covers of a module after publications (source `CapabilityView::digest`). -/
def contentsAfter (t : State) (record : ModuleRecord) (kept : List CapabilityDeclaration) :
    List Content :=
  (buildCapabilityConsensus (liveDeclarations t
    { record with declarations := kept } record.incarnation)).map (·.content)

/-- An attribute that nothing stands about, and about which the published values agree, has the first
one of them (source `build_capability_consensus`). -/
lemma Published.content_first (published : Published s t uid record l added kept)
    (dated : record.Dated) (consistent : Consistent s) (found : s.modules[uid]? = some record)
    (once : Once l) (none : standing s record (l.map (·.stated)) k = [])
    (agree : (publishedValues (l.map (·.stated)) k).Pairwise fun u v => u.equal v = true)
    {value : CapabilityValue} (first : (publishedValues (l.map (·.stated)) k).head? = some value) :
    (contentAfter t record kept k).2.2 = some value := by
  have keptDated : ModuleRecord.Dated { record with declarations := kept } :=
    (published.dated dated consistent found).mono published.cut.sublist.subperm rfl
      (UInt32.le_refl _)
  have values := published.live_values dated consistent found once k
  rw [none, show declarationReading.liveSorted [] = [] from rfl, List.map_nil, List.nil_append]
    at values
  exact Reading.tally_agreeing (R := declarationReading) (fun _ _ => CapabilityValue.equal_symm)
    (fun _ _ _ => CapabilityValue.equal_trans) (keptDated.authors (s := t) k)
    (Reading.agree_iff_values.2 (values ▸ agree)) (values ▸ first)

/-- An attribute has one outcome after two orders of publications (source
`build_capability_consensus`). -/
lemma Published.outcome_eq (published : Published s t uid record l added kept)
    (published' : Published s t' uid record l' added' kept') (dated : record.Dated)
    (consistent : Consistent s) (found : s.modules[uid]? = some record) (once : Once l)
    (once' : Once l') (perm : (l.map (·.stated)).Perm (l'.map (·.stated)))
    (some : withKey CapabilityDeclaration.subject
      (liveDeclarations t { record with declarations := kept } record.incarnation) k ≠ []) :
    (contentAfter t record kept k).2.1 = (contentAfter t' record kept' k).2.1 := by
  have some' : withKey CapabilityDeclaration.subject
      (liveDeclarations t' { record with declarations := kept' } record.incarnation) k ≠ [] :=
    fun none => some ((published.no_entry_iff published' dated consistent found perm k).2 none)
  have keptDated : ModuleRecord.Dated { record with declarations := kept } :=
    (published.dated dated consistent found).mono published.cut.sublist.subperm rfl
      (UInt32.le_refl _)
  have keptDated' : ModuleRecord.Dated { record with declarations := kept' } :=
    (published'.dated dated consistent found).mono published'.cut.sublist.subperm rfl
      (UInt32.le_refl _)
  have values := published.live_values dated consistent found once k
  have values' := published'.live_values dated consistent found once' k
  rw [← standing_perm perm] at values'
  exact (Reading.tally_reordered (R := declarationReading) (fun _ _ => CapabilityValue.equal_symm)
    (fun _ _ _ => CapabilityValue.equal_trans) (keptDated.authors (s := t) k)
    (keptDated'.authors (s := t') k) some some' (by
      rw [values, values']
      exact ((perm.filter _).map _).append_left _)).1

/-- An attribute with a UTF-8 subkey that nothing stands about, and about which the published values
agree, is not written exactly when one of them is a text that is not UTF-8 (source
`build_capability_consensus`, the writer). -/
lemma Published.unwritten_iff (published : Published s t uid record l added kept)
    (dated : record.Dated) (consistent : Consistent s) (found : s.modules[uid]? = some record)
    (once : Once l) (none : standing s record (l.map (·.stated)) k = [])
    (agree : (publishedValues (l.map (·.stated)) k).Pairwise fun u v => u.equal v = true)
    (spoken : publishedValues (l.map (·.stated)) k ≠ [])
    (valid : ∀ value ∈ publishedValues (l.map (·.stated)) k, value.validateFor k.1 = .ok ())
    (subkey : isValidUtf8 k.2 = true) :
    (new.writeValue (contentDocument (contentAfter t record kept k))).failed = true ↔
      ∃ value ∈ publishedValues (l.map (·.stated)) k, ¬ value.Legible := by
  obtain ⟨v, first⟩ := Option.isSome_iff_exists.1 (List.isSome_head?.2 spoken)
  have member := List.mem_of_head? first
  have shown : contentAfter t record kept k = (k, (contentAfter t record kept k).2.1, some v) :=
    Prod.ext rfl (Prod.ext rfl (published.content_first dated consistent found once none agree first))
  rw [shown, ← Bool.not_eq_false, content_written (valid v member), and_iff_right subkey]
  constructor
  · exact fun illegible => ⟨v, member, illegible⟩
  · rintro ⟨value, inside, illegible⟩ legible
    by_cases here : v = value
    · exact illegible (here ▸ legible)
    · have symm : Std.Symm fun a b : CapabilityValue => a.equal b = true :=
        ⟨fun _ _ => CapabilityValue.equal_symm⟩
      exact illegible (legible_of_equal (List.Pairwise.forall agree member inside here) legible)

/-- An attribute with a UTF-8 subkey that SHA-256 tells apart has one outcome and one digest after two
orders of publications exactly when it is told alike (source `build_capability_consensus`). -/
lemma Published.toldAlike_iff (published : Published s t uid record l added kept)
    (published' : Published s t' uid record l' added' kept') (dated : record.Dated)
    (consistent : Consistent s) (found : s.modules[uid]? = some record) (once : Once l)
    (once' : Once l') (perm : (l.map (·.stated)).Perm (l'.map (·.stated)))
    (valid : ∀ value ∈ publishedValues (l.map (·.stated)) k, value.validateFor k.1 = .ok ())
    (subkey : isValidUtf8 k.2 = true)
    (some : withKey CapabilityDeclaration.subject
      (liveDeclarations t { record with declarations := kept } record.incarnation) k ≠ [])
    (free : CollisionFree (contentDocument (contentAfter t record kept k))
      (contentDocument (contentAfter t' record kept' k))) :
    contentDigest (contentAfter t record kept k) = contentDigest (contentAfter t' record kept' k) ↔
      ToldAlike s record (l.map (·.stated)) (l'.map (·.stated)) k := by
  have same : contentAfter t record kept k = contentAfter t' record kept' k ↔
      Settled s record (l.map (·.stated)) (l'.map (·.stated)) k :=
    published.content_eq_iff published' dated consistent found once once' perm some
  rw [contentDigest_eq_iff free, same, ToldAlike]
  by_cases settled : Settled s record (l.map (·.stated)) (l'.map (·.stated)) k
  · exact iff_of_true (.inl settled) (.inl settled)
  rw [or_iff_right settled, or_iff_right settled]
  simp only [Settled, not_or, not_not] at settled
  obtain ⟨none, agree, differ⟩ := settled
  have values : (publishedValues (l.map (·.stated)) k).Perm (publishedValues (l'.map (·.stated)) k) :=
    (perm.filter _).map _
  have agree' := (values.pairwise_iff fun {u v} => CapabilityValue.equal_symm).1 agree
  -- with no published value in one order there is none in the other, and the attribute is settled
  have spoken : publishedValues (l.map (·.stated)) k ≠ [] := by
    intro nothing
    rw [nothing] at values differ
    exact differ (by rw [values.nil_eq])
  have spoken' : publishedValues (l'.map (·.stated)) k ≠ [] := by
    intro nothing
    rw [nothing] at values
    exact spoken values.eq_nil
  have illegible : (∃ value ∈ publishedValues (l'.map (·.stated)) k, ¬ value.Legible) ↔
      ∃ value ∈ publishedValues (l.map (·.stated)) k, ¬ value.Legible := by
    simp only [values.mem_iff]
  rw [published.unwritten_iff dated consistent found once none agree spoken valid subkey,
    published'.unwritten_iff dated consistent found once' (standing_perm perm ▸ none) agree' spoken'
      (fun value member => valid value (values.mem_iff.2 member)) subkey, illegible, and_self]

end Attributes

section Views

/-- The documents of two views of the same attributes are the same exactly when every attribute has
one outcome and one digest (source `digest_capability_attributes`). -/
lemma viewDocument_eq_iff {declarations declarations' : List CapabilityDeclaration}
    (keys : ∀ k, withKey CapabilityDeclaration.subject declarations k = [] ↔
      withKey CapabilityDeclaration.subject declarations' k = []) :
    viewDocument ((buildCapabilityConsensus declarations).map (·.content)) =
        viewDocument ((buildCapabilityConsensus declarations').map (·.content)) ↔
      ∀ k, withKey CapabilityDeclaration.subject declarations k ≠ [] →
        entryDocument (attributeConsensus k
            (withKey CapabilityDeclaration.subject declarations k)).content =
          entryDocument (attributeConsensus k
            (withKey CapabilityDeclaration.subject declarations' k)).content := by
  rw [viewDocument, viewDocument, Value.array.injEq, buildCapabilityConsensus,
    buildCapabilityConsensus, List.map_map, List.map_map, List.map_map, List.map_map]
  exact map_groupBy_eq_iff (f := fun k group => entryDocument (attributeConsensus k group).content)
    keys fun _ _ _ _ same => (entryDocument_inj.1 same).1

/-- The view of declarations is written when their subkeys are UTF-8 (source
`digest_capability_attributes`). -/
lemma contents_written {declarations : List CapabilityDeclaration} :
    (new.writeValue (viewDocument
        ((buildCapabilityConsensus declarations).map (·.content)))).failed = false ↔
      ∀ k, withKey CapabilityDeclaration.subject declarations k ≠ [] → isValidUtf8 k.2 = true := by
  rw [view_written, List.forall_mem_map]
  constructor
  · intro all k some
    exact all _ (mem_map_groupBy.2 ⟨k, some, rfl⟩)
  · rintro all e member
    obtain ⟨k, some, rfl⟩ := mem_map_groupBy.1 member
    exact all k some

/-- The values that are published in a run were accepted (source `Registry::publish_capability`). -/
lemma accepted_of_run [StdSort] {config : RegistryConfig} {s t : State} {l : List Publishing}
    (run : runGuarded (step config) (fun s _ => NoWrap s) (l.map Publishing.call) s = some t) :
    ∀ p ∈ l, p.stated.value.validateFor p.stated.key = .ok () := by
  induction l generalizing s with
  | nil => exact fun _ member => (List.not_mem_nil member).elim
  | cons p l ih =>
    obtain ⟨_, u, taken, rest⟩ := runGuarded_cons_eq_some.1 run
    exact List.forall_mem_cons.2 ⟨(step_eq_some taken).1.2.2.1, ih rest⟩

section Module

variable {s t t' : State} {uid : ModuleUid} {record : ModuleRecord} {l l' : List Publishing}
  {added added' kept kept' : List CapabilityDeclaration}

/-- The view of a module after publications is written when every subkey is UTF-8 (source
`digest_capability_attributes`). -/
lemma Published.contents_written_iff (published : Published s t uid record l added kept)
    (dated : record.Dated) (consistent : Consistent s) (found : s.modules[uid]? = some record) :
    (new.writeValue (viewDocument (contentsAfter t record kept))).failed = false ↔
      ¬ IllegibleSubkey record (l.map (·.stated)) := by
  rw [contentsAfter, contents_written]
  constructor
  · rintro all ⟨k, unwritten, about⟩
    rw [all k ((published.entry_iff dated consistent found).2 about)] at unwritten
    cases unwritten
  · intro legible k some
    by_contra unwritten
    rw [Bool.not_eq_true] at unwritten
    exact legible ⟨k, unwritten, (published.entry_iff dated consistent found).1 some⟩

/-- Two orders of publications leave one document exactly when every attribute is told alike (source
`digest_capability_attributes`). -/
lemma Published.documents_toldAlike_iff (published : Published s t uid record l added kept)
    (published' : Published s t' uid record l' added' kept') (dated : record.Dated)
    (consistent : Consistent s) (found : s.modules[uid]? = some record) (once : Once l)
    (perm : (l.map (·.stated)).Perm (l'.map (·.stated)))
    (accepted : ∀ p ∈ l, p.stated.value.validateFor p.stated.key = .ok ())
    (legible : ¬ IllegibleSubkey record (l.map (·.stated)))
    (free : ContentsApart (contentsAfter t record kept) (contentsAfter t' record kept')) :
    viewDocument (contentsAfter t record kept) = viewDocument (contentsAfter t' record kept') ↔
      ∀ k, ToldAlike s record (l.map (·.stated)) (l'.map (·.stated)) k := by
  have keys := published.no_entry_iff published' dated consistent found perm
  have written := (published.contents_written_iff dated consistent found).2 legible
  rw [contentsAfter, contents_written] at written
  have valid (k) : ∀ value ∈ publishedValues (l.map (·.stated)) k,
      value.validateFor k.1 = .ok () := by
    intro value member
    obtain ⟨p, inside, rfl⟩ := List.mem_map.1 member
    obtain ⟨inside, about⟩ := List.mem_filter.1 inside
    obtain ⟨q, stated, rfl⟩ := List.mem_map.1 inside
    obtain rfl := of_decide_eq_true about
    exact accepted q stated
  have each (k) (some : withKey CapabilityDeclaration.subject
      (liveDeclarations t { record with declarations := kept } record.incarnation) k ≠ []) :
      entryDocument (contentAfter t record kept k) = entryDocument (contentAfter t' record kept' k) ↔
        ToldAlike s record (l.map (·.stated)) (l'.map (·.stated)) k := by
    have some' : withKey CapabilityDeclaration.subject
        (liveDeclarations t' { record with declarations := kept' } record.incarnation) k ≠ [] :=
      fun none => some ((keys k).2 none)
    have about : (contentAfter t record kept k).1 = (contentAfter t' record kept' k).1 := rfl
    have outcome := published.outcome_eq published' dated consistent found once (once.perm perm)
      perm some
    have apart := free.each _ (List.mem_map_of_mem (mem_map_groupBy.2 ⟨k, some, rfl⟩)) _
      (List.mem_map_of_mem (mem_map_groupBy.2 ⟨k, some', rfl⟩)) about
    rw [entryDocument_inj, and_iff_right about, and_iff_right outcome]
    exact published.toldAlike_iff published' dated consistent found once (once.perm perm) perm
      (valid k) (written k some) some apart
  rw [contentsAfter, contentsAfter, viewDocument_eq_iff keys]
  constructor
  · intro same k
    by_cases none : withKey CapabilityDeclaration.subject
        (liveDeclarations t { record with declarations := kept } record.incarnation) k = []
    · exact .inl (published.settled_of_no_entry dated consistent found perm none)
    · exact (each k none).1 (same k none)
  · exact fun all k some => (each k some).2 (all k)

/-- Two orders of publications leave one digest exactly when a subkey is not UTF-8 or every attribute
is told alike (source `CapabilityView::digest`). -/
lemma Published.digests_toldAlike_iff (published : Published s t uid record l added kept)
    (published' : Published s t' uid record l' added' kept') (dated : record.Dated)
    (consistent : Consistent s) (found : s.modules[uid]? = some record) (once : Once l)
    (perm : (l.map (·.stated)).Perm (l'.map (·.stated)))
    (accepted : ∀ p ∈ l, p.stated.value.validateFor p.stated.key = .ok ())
    (free : ContentsApart (contentsAfter t record kept) (contentsAfter t' record kept')) :
    (new.writeValue (viewDocument (contentsAfter t record kept))).digest =
        (new.writeValue (viewDocument (contentsAfter t' record kept'))).digest ↔
      IllegibleSubkey record (l.map (·.stated)) ∨
        ∀ k, ToldAlike s record (l.map (·.stated)) (l'.map (·.stated)) k := by
  have written := published.contents_written_iff dated consistent found
  have written' := published'.contents_written_iff dated consistent found
  by_cases illegible : IllegibleSubkey record (l.map (·.stated))
  · -- neither view is written, so both digests are the zero digest
    have illegible' : IllegibleSubkey record (l'.map (·.stated)) := by
      obtain ⟨k, unwritten, about⟩ := illegible
      refine ⟨k, unwritten, about.imp_right fun ⟨p, member, same⟩ => ⟨p, ?_, same⟩⟩
      exact perm.mem_iff.1 member
    refine iff_of_true ?_ (.inl illegible)
    rw [← not_iff_not, not_not, Bool.not_eq_false] at written written'
    rw [CanonicalWriter.digest, CanonicalWriter.digest, if_pos (written.2 illegible),
      if_pos (written'.2 illegible')]
  · rw [or_iff_right illegible, ← published.documents_toldAlike_iff published' dated consistent found
      once perm accepted illegible free]
    exact ⟨free.whole.eq (.inl (written.2 illegible)), fun same => by rw [same]⟩

end Module

/-- What is shown of a module after publications (source `Registry::capabilities`). -/
lemma view_after {t : State} {module : ModuleHandle} {record : ModuleRecord}
    {kept : List CapabilityDeclaration} {view : CapabilityView}
    (stored : t.modules[module.uid]? = some { record with declarations := kept })
    (shown : capabilities t module = .ok view) : view.content = contentsAfter t record kept ∧
      view.digest = (new.writeValue (viewDocument view.content)).digest := by
  obtain ⟨last, found, _, rfl⟩ := capabilities_eq_ok.1 shown
  obtain rfl := Option.some.inj (stored.symm.trans found)
  exact ⟨rfl, digest_of_document _⟩

/-- In every state that is reached while the counters have a next value: two orders of publications
about a module, in which a source publishes an attribute at most once and the sequence counter does
not wrap, lead to views with the same digest if and only if every attribute is told alike, as long as
SHA-256 tells the documents apart (source `CapabilityView::digest`). -/
theorem capability_digest_order_iff [StdSort] {config : RegistryConfig} {w : Deployment}
    (reached : Run Deployment.step (fun w event => keepsStates advances holdsCounters w event = true)
      (Deployment.fresh config) w) {module : ModuleHandle} {l l' : List Publishing}
    (on : ∀ p ∈ l, p.module.uid = module.uid) (on' : ∀ p ∈ l', p.module.uid = module.uid)
    (perm : (l.map (·.stated)).Perm (l'.map (·.stated))) (once : Once l) {t t' : State}
    (run : runGuarded (step w.config) (fun s _ => NoWrap s) (l.map Publishing.call) w.registry =
      some t)
    (run' : runGuarded (step w.config) (fun s _ => NoWrap s) (l'.map Publishing.call) w.registry =
      some t') {view view' : CapabilityView} (shown : capabilities t module = .ok view)
    (shown' : capabilities t' module = .ok view')
    (free : ContentsApart view.content view'.content) :
    view.digest = view'.digest ↔
      AllToldAlike w.config w.registry module.uid (l.map (·.stated)) (l'.map (·.stated)) := by
  obtain ⟨consistent, _, datedAll⟩ := Run.consistent reached
  obtain ⟨_, last, _, _⟩ := capabilities_eq_ok.1 shown
  obtain ⟨record, found⟩ := known_of_run on run last
  have dated := datedAll module.uid record found
  by_cases none : w.config.maxClaimHistory = 0
  · obtain ⟨kept, kept', stored, stored', settled⟩ :=
      contents_settled_iff consistent dated found on on' perm once run run'
    obtain ⟨covers, digest⟩ := view_after stored shown
    obtain ⟨covers', digest'⟩ := view_after stored' shown'
    refine iff_of_true ?_ (.inl none)
    rw [digest, digest', covers, covers', contentsAfter, contentsAfter, settled.2 (.inl none)]
  · have room : 1 ≤ w.config.maxClaimHistory := by
      rw [UInt32.le_iff_toNat_le]
      exact Nat.pos_of_ne_zero fun zero => none (UInt32.toNat_inj.1 zero)
    obtain ⟨added, kept, published⟩ := published_of_run room found on run
    obtain ⟨added', kept', published'⟩ := published_of_run room found on' run'
    obtain ⟨covers, digest⟩ := view_after published.found shown
    obtain ⟨covers', digest'⟩ := view_after published'.found shown'
    rw [covers, covers'] at free
    rw [digest, digest', covers, covers', published.digests_toldAlike_iff published' dated consistent
      found once perm (accepted_of_run run) free, AllToldAlike, or_iff_right none]
    constructor
    · intro alike before known
      obtain rfl := Option.some.inj (found.symm.trans known)
      exact alike
    · exact fun all => all record found

end Views

deriving instance DecidableEq for CapabilityValue

/-- What is covered of the highest temperature that two sources agree on. -/
def agreedMaximum (celsius : Binary64) : Content :=
  ((.operatingTemperatureMaxCelsius, []), .agreed, some (.real celsius))

/-- SHA-256 tells the documents of the same number apart from nothing but themselves. -/
lemma agreedMaximum_apart : ContentsApart [agreedMaximum ⟨0⟩] [agreedMaximum ⟨0⟩] := by
  obtain ⟨short, short', nonzero, nonzero'⟩ :
      (new.writeValue (viewDocument [agreedMaximum ⟨0⟩])).bytes.length < 2 ^ 64 ∧
        (new.writeValue (contentDocument (agreedMaximum ⟨0⟩))).bytes.length < 2 ^ 64 ∧
        sha256 (new.writeValue (viewDocument [agreedMaximum ⟨0⟩])).bytes ≠ Digest.zero ∧
        sha256 (new.writeValue (contentDocument (agreedMaximum ⟨0⟩))).bytes ≠ Digest.zero := by
    decide +kernel
  refine ⟨⟨short, short, fun _ => rfl, nonzero, nonzero⟩, fun e member e' member' _ => ?_⟩
  obtain rfl := List.mem_singleton.1 member
  obtain rfl := List.mem_singleton.1 member'
  exact ⟨short', short', fun _ => rfl, nonzero', nonzero'⟩

/-- Two sources that publish the same number in either order give one digest, and the attribute is
told alike. -/
theorem capability_digest_order_iff_zero : ∃ (w : Deployment) (view view' : CapabilityView),
    viewAfter w [publishesMaximum 1 ⟨0⟩, publishesMaximum 2 ⟨0⟩] = some view ∧
    viewAfter w [publishesMaximum 2 ⟨0⟩, publishesMaximum 1 ⟨0⟩] = some view' ∧
    (view.digest = view'.digest ↔ AllToldAlike w.config w.registry 1
      [(publishesMaximum 1 ⟨0⟩).stated, (publishesMaximum 2 ⟨0⟩).stated]
      [(publishesMaximum 2 ⟨0⟩).stated, (publishesMaximum 1 ⟨0⟩).stated]) := by
  have shows : (runGuarded Deployment.step (keepsStates advances holdsCounters) twoSources
      (Deployment.fresh {})).any (fun w =>
        (viewAfter w [publishesMaximum 1 ⟨0⟩, publishesMaximum 2 ⟨0⟩]).any
          (fun view => decide (view.content = [agreedMaximum ⟨0⟩])) &&
        (viewAfter w [publishesMaximum 2 ⟨0⟩, publishesMaximum 1 ⟨0⟩]).any
          fun view => decide (view.content = [agreedMaximum ⟨0⟩])) = true := by
    decide +kernel
  obtain ⟨w, reached, shows⟩ := Run.exists_ofGuarded shows
  obtain ⟨one, two⟩ := Bool.and_eq_true_iff.1 shows
  obtain ⟨view, one, covers⟩ := (Option.any_eq_true _ _).1 one
  obtain ⟨view', two, covers'⟩ := (Option.any_eq_true _ _).1 two
  obtain ⟨t, run, shown⟩ := of_viewAfter one
  obtain ⟨t', run', shown'⟩ := of_viewAfter two
  have swapped : ([publishesMaximum 1 ⟨0⟩, publishesMaximum 2 ⟨0⟩].map (·.stated)).Perm
    ([publishesMaximum 2 ⟨0⟩, publishesMaximum 1 ⟨0⟩].map (·.stated)) := .swap ..
  have once : Once [publishesMaximum 1 ⟨0⟩, publishesMaximum 2 ⟨0⟩] := by
    simp [Once, publishesMaximum, Publication.told]
  refine ⟨w, view, view', one, two, ?_⟩
  refine capability_digest_order_iff reached (by simp [publishesMaximum]) (by simp [publishesMaximum])
    swapped once run run' shown shown' ?_
  rw [of_decide_eq_true covers, of_decide_eq_true covers']
  exact agreedMaximum_apart

/-- Two sources that publish zeros of the two signs give two digests, by which of them publishes
first (source `CapabilityView::digest`). -/
theorem zeros_digest_apart : ¬ ∀ (config : RegistryConfig) (w : Deployment) (module : ModuleHandle)
    (l l' : List Publishing) (t t' : State) (view view' : CapabilityView),
    Run Deployment.step (fun w event => keepsStates advances holdsCounters w event = true)
      (Deployment.fresh config) w →
    (∀ p ∈ l, p.module.uid = module.uid) → (∀ p ∈ l', p.module.uid = module.uid) →
    (l.map (·.stated)).Perm (l'.map (·.stated)) → Once l →
    runGuarded (step w.config) (fun s _ => NoWrap s) (l.map Publishing.call) w.registry = some t →
    runGuarded (step w.config) (fun s _ => NoWrap s) (l'.map Publishing.call) w.registry = some t' →
    capabilities t module = .ok view → capabilities t' module = .ok view' →
    view.digest = view'.digest := by
  intro same
  have shows : (runGuarded Deployment.step (keepsStates advances holdsCounters) twoSources
      (Deployment.fresh {})).any (fun w =>
        (viewAfter w [publishesMaximum 1 ⟨0⟩, publishesMaximum 2 ⟨0x8000000000000000⟩]).any
          fun view => (viewAfter w [publishesMaximum 2 ⟨0x8000000000000000⟩,
            publishesMaximum 1 ⟨0⟩]).any fun view' => view.digest ≠ view'.digest) = true := by
    decide +kernel
  obtain ⟨w, reached, shows⟩ := Run.exists_ofGuarded shows
  obtain ⟨view, one, shows⟩ := (Option.any_eq_true _ _).1 shows
  obtain ⟨view', two, differ⟩ := (Option.any_eq_true _ _).1 shows
  obtain ⟨t, run, shown⟩ := of_viewAfter one
  obtain ⟨t', run', shown'⟩ := of_viewAfter two
  have swapped : ([publishesMaximum 1 ⟨0⟩, publishesMaximum 2 ⟨0x8000000000000000⟩].map
      (·.stated)).Perm ([publishesMaximum 2 ⟨0x8000000000000000⟩, publishesMaximum 1 ⟨0⟩].map
      (·.stated)) := .swap ..
  refine of_decide_eq_true differ (same {} w firstA _ _ t t' view view' reached ?_ ?_ swapped ?_
    run run' shown shown')
  · simp [publishesMaximum]
  · simp [publishesMaximum]
  · simp [Once, publishesMaximum, Publication.told]

end TransceiverRegistry

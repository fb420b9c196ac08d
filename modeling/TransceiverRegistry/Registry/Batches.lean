import TransceiverRegistry.Registry.Statements

/-!
# Batches of claims

All claims of one registration share a sequence number. The trims keep or drop the claims of the
newest batch whatever their order, as long as no earlier claim has a later number.
-/

namespace TransceiverRegistry

open Lib

section Sorted

variable {α κ : Type}

/-- In strict order the first entries are those with few entries before them. -/
lemma mem_take_iff_countP {lt : α → α → Bool} {l : List α} {n : Nat} {a : α}
    (asymm : ∀ a b, lt a b = true → lt b a = false)
    (strict : l.Pairwise fun a b => lt a b = true) (member : a ∈ l) :
    a ∈ l.take n ↔ l.countP (lt · a) < n := by
  have irrefl (a : α) : lt a a = false := by
    by_contra h
    rw [Bool.not_eq_false] at h
    rw [asymm a a h] at h
    cases h
  induction l generalizing n with
  | nil => cases member
  | cons b l ih =>
    obtain ⟨first, rest⟩ := List.pairwise_cons.1 strict
    cases n with
    | zero => simp
    | succ n =>
      rw [List.take_succ_cons, List.mem_cons]
      obtain rfl | later := List.mem_cons.1 member
      · have none : l.countP (lt · a) = 0 := by
          rw [List.countP_eq_zero]
          intro c inRest
          rw [asymm a c (first c inRest)]
          exact Bool.false_ne_true
        rw [List.countP_cons_of_neg (by simp [irrefl]), none]
        exact iff_of_true (.inl rfl) (Nat.succ_pos n)
      · have differ : a ≠ b := by
          rintro rfl
          have := first a later
          rw [irrefl] at this
          cases this
        rw [List.countP_cons_of_pos (by exact first a later), Nat.succ_lt_succ_iff]
        exact (or_iff_right differ).trans (ih rest later)

variable [DecidableEq κ] {group : α → κ} {sequence : α → Sequence}

/-- The members of the group of an entry. -/
def groupSize (group : α → κ) (l : List α) (a : α) : Nat := l.countP fun b => group b = group a

/-- The members of the group of an entry that are older than it. -/
def groupAge (group : α → κ) (sequence : α → Sequence) (l : List α) (a : α) : Nat :=
  l.countP fun b => group b = group a ∧ sequence b < sequence a

/-- The members of a group are in different steps. -/
def Staggered (group : α → κ) (sequence : α → Sequence) (l : List α) : Prop :=
  l.Pairwise fun a b => group a = group b → sequence a ≠ sequence b

/-- Counting entries of a part by what they hold. -/
lemma countP_zipIdx_filter (l : List α) (p q : α → Bool) :
    (l.zipIdx.filter fun entry => p entry.1).countP (fun entry => q entry.1) =
      l.countP fun a => p a && q a := by
  rw [List.countP_filter]
  have values := congrArg (List.countP fun a => p a && q a) (List.zipIdx_map_fst 0 l)
  rw [List.countP_map] at values
  rw [← values]
  congr 1
  funext entry
  simp [Bool.and_comm]

/-- When the members of a group are in different steps, the second trim keeps the entries with
enough older ones (source `trim_claims`, the second part). -/
lemma dropExcess_eq_filter [StdSort] {maxHistory : Nat} {l : List α}
    (staggered : Staggered group sequence l) :
    dropExcess group sequence maxHistory l =
      l.filter fun a => groupSize group l a - maxHistory ≤ groupAge group sequence l a := by
  have kept : ∀ entry ∈ l.zipIdx,
      ((excessOf group sequence maxHistory l (group entry.1)).all fun old => old.2 ≠ entry.2) =
        decide (groupSize group l entry.1 - maxHistory ≤ groupAge group sequence l entry.1) := by
    rintro ⟨a, i⟩ here
    let lt := fun x y : α × Nat => decide (sequence x.1 < sequence y.1)
    let members := l.zipIdx.filter fun entry => group entry.1 = group a
    have perm : (StdSort.sort lt members).Perm members := StdSort.perm lt members
    have weak : StrictWeakOn lt members :=
      strictWeakOn_rank (fun x => (sequence x.1).toNat) (fun x y => by
        simp [lt, UInt64.lt_iff_toNat_lt]) members
    have asymm : ∀ x y, lt x y = true → lt y x = false := by
      intro x y before
      simp only [lt, decide_eq_true_eq, decide_eq_false_iff_not, UInt64.lt_iff_toNat_lt] at before ⊢
      omega
    -- the members have different sequence numbers, so the sort leaves them in strict order
    have apart : members.Pairwise fun x y => sequence x.1 ≠ sequence y.1 := by
      have all : l.zipIdx.Pairwise fun x y =>
          group x.1 = group y.1 → sequence x.1 ≠ sequence y.1 := by
        have values : (l.zipIdx.map Prod.fst).Pairwise fun a b =>
            group a = group b → sequence a ≠ sequence b := by
          rw [List.zipIdx_map_fst]
          exact staggered
        exact List.pairwise_map.1 values
      refine (all.filter _).imp_of_mem fun {x y} hx hy differ => differ ?_
      have ofX := (List.mem_filter.1 hx).2
      have ofY := (List.mem_filter.1 hy).2
      simp only [decide_eq_true_eq] at ofX ofY
      rw [ofX, ofY]
    have apart' := perm.symm.pairwise apart fun {x y} differ => differ.symm
    have strict : (StdSort.sort lt members).Pairwise fun x y => lt x y = true := by
      refine ((StdSort.sorted weak).and apart').imp fun {x y} both => ?_
      obtain ⟨notAfter, differ⟩ := both
      simp only [lt, decide_eq_true_eq, decide_eq_false_iff_not, UInt64.lt_iff_toNat_lt]
        at notAfter ⊢
      have := mt UInt64.toNat_inj.1 differ
      omega
    have inMembers : (a, i) ∈ members := List.mem_filter.2 ⟨here, decide_eq_true rfl⟩
    have older : (StdSort.sort lt members).countP (lt · (a, i)) = groupAge group sequence l a := by
      have all := countP_zipIdx_filter l (fun b => group b = group a) fun b =>
        sequence b < sequence a
      rw [perm.countP_eq]
      refine all.trans (congrArg (l.countP ·) (funext fun b => ?_))
      rw [Bool.decide_and]
    have size : members.length = groupSize group l a := by
      have all := countP_zipIdx_filter l (fun b => group b = group a) fun _ => true
      rw [List.countP_true] at all
      refine all.trans (congrArg (l.countP ·) (funext fun b => ?_))
      rw [Bool.and_true]
    rw [Bool.eq_iff_iff, List.all_eq_true, decide_eq_true_iff, excessOf, ← size, ← older,
      ← Nat.not_lt, ← mem_take_iff_countP asymm strict (perm.symm.subset inMembers)]
    constructor
    · intro others dropped
      simpa using others (a, i) dropped
    · rintro stays ⟨b, j⟩ dropped
      rw [decide_eq_true_iff]
      rintro rfl
      have member := (List.mem_filter.1 (perm.subset (List.mem_of_mem_take dropped))).1
      rw [List.mk_mem_zipIdx_iff_getElem?] at member here
      obtain rfl : b = a := Option.some.inj (member.symm.trans here)
      exact stays dropped
  rw [dropExcess, List.filter_congr kept]
  have values := List.filter_map (f := Prod.fst) (l := l.zipIdx) (p := fun a =>
    decide (groupSize group l a - maxHistory ≤ groupAge group sequence l a))
  rw [List.zipIdx_map_fst] at values
  exact values.symm

/-- The second trim keeps the same entries whatever their order (source `trim_claims`, the second
part). -/
lemma dropExcess_perm [StdSort] {maxHistory : Nat} {l l' : List α}
    (staggered : Staggered group sequence l) (perm : l.Perm l') :
    (dropExcess group sequence maxHistory l).Perm (dropExcess group sequence maxHistory l') := by
  have staggered' : Staggered group sequence l' := perm.pairwise staggered fun {a b} differ same =>
    (differ same.symm).symm
  have same : (fun a => decide (groupSize group l' a - maxHistory ≤ groupAge group sequence l' a)) =
      fun a => decide (groupSize group l a - maxHistory ≤ groupAge group sequence l a) := by
    funext a
    have size : groupSize group l' a = groupSize group l a := perm.symm.countP_eq _
    have age : groupAge group sequence l' a = groupAge group sequence l a := perm.symm.countP_eq _
    rw [size, age]
  rw [dropExcess_eq_filter staggered, dropExcess_eq_filter staggered', same]
  exact perm.filter _

variable {covers : α → α → Bool} {maxTotal : Nat} {exhausted : Error} {guard : Nat}
  {old batch batch' kept : List α}

/-- A batch that nothing covers passes the first trim as it is (source `trim_claims`, the first
loop). -/
lemma eraseSuperseded_batch (perm : batch.Perm batch')
    (bare : ∀ a ∈ batch, isCovered covers (old ++ batch) a = false)
    (erase : eraseSuperseded (isCovered covers) maxTotal exhausted guard (old ++ batch) =
      .ok kept) :
    ∃ left, left.Sublist old ∧ kept = left ++ batch ∧
      eraseSuperseded (isCovered covers) maxTotal exhausted guard (old ++ batch') =
        .ok (left ++ batch') := by
  induction guard generalizing old with
  | zero =>
    unfold eraseSuperseded at erase ⊢
    rw [← (perm.append_left old).length_eq]
    split at erase
    · cases erase
    · rename_i fits
      cases erase
      exact ⟨old, List.Sublist.refl _, rfl, if_neg fits⟩
  | succ guard ih =>
    have covered : isCovered covers (old ++ batch') = isCovered covers (old ++ batch) := by
      funext a
      exact ((perm.append_left old).any_eq).symm
    unfold eraseSuperseded at erase ⊢
    rw [← (perm.append_left old).length_eq, covered, ← (perm.append_left old).any_eq]
    split at erase
    · rename_i exceeds
      rw [if_pos exceeds]
      split at erase
      · rename_i some
        rw [if_pos some]
        -- the first entry that is covered is an old one
        obtain ⟨a, member, isCov⟩ := List.any_eq_true.1 some
        have inOld : a ∈ old := (List.mem_append.1 member).resolve_right fun inBatch => by
          rw [bare a inBatch] at isCov
          cases isCov
        rw [List.eraseP_append_left isCov _ inOld] at erase ⊢
        have bare' : ∀ a ∈ batch, isCovered covers
            (old.eraseP (isCovered covers (old ++ batch)) ++ batch) a = false := by
          intro a inBatch
          have whole := bare a inBatch
          rw [isCovered, List.any_eq_false] at whole ⊢
          exact fun b inside => whole b ((List.eraseP_sublist.append_right batch).subset inside)
        obtain ⟨left, sub, rfl, erase'⟩ := ih bare' erase
        exact ⟨left, sub.trans List.eraseP_sublist, rfl, erase'⟩
      · cases erase
    · rename_i fits
      rw [if_neg fits]
      cases erase
      exact ⟨old, List.Sublist.refl _, rfl, rfl⟩

end Sorted

/-- Claims of one step are about different attributes and name different values. -/
def ClaimsApart (a b : IdentityClaim) : Prop :=
  a.sequence = b.sequence → claimGroup a ≠ claimGroup b ∧ a.value ≠ b.value

/-- The claims of a module came in batches without repetitions, each before the next sequence
number. -/
structure Batched (next : Sequence) (claims : List IdentityClaim) : Prop where
  before : ∀ claim ∈ claims, claim.sequence < next
  apart : claims.Pairwise ClaimsApart

/-- A call that names no value twice, taken before the sequence counter wraps (source
`Registry::register_module`). -/
def NamesApart (s : State) (call : Call) : Prop :=
  NoWrap s ∧ match call.operation with
    | .registerModule registration _ => (registration.identity.map (·.value)).Nodup
    | _ => True

instance (s : State) (call : Call) : Decidable (NamesApart s call) := by
  unfold NamesApart
  cases call.operation <;> infer_instance

variable {next next' : Sequence} {claims claims' : List IdentityClaim}

/-- The order of the claims does not matter. -/
lemma ClaimsApart.symm {a b : IdentityClaim} (h : ClaimsApart a b) : ClaimsApart b a :=
  fun same => ⟨(h same.symm).1.symm, (h same.symm).2.symm⟩

/-- A part of the claims, later. -/
lemma Batched.sublist (h : Batched next claims) (sub : claims'.Sublist claims) (le : next ≤ next') :
    Batched next' claims' where
  before claim member := by
    have := h.before claim (sub.subset member)
    rw [UInt64.lt_iff_toNat_lt] at this ⊢
    rw [UInt64.le_iff_toNat_le] at le
    omega
  apart := h.apart.sublist sub

/-- The members of a group are in different steps. -/
lemma Batched.staggered (h : claims.Pairwise ClaimsApart) :
    Staggered claimGroup (·.sequence) claims :=
  h.imp fun {_ _} apart same sequence => (apart sequence).1 same

/-- A new batch is apart from the older claims. -/
lemma Batched.append (h : Batched next claims) {batch : List IdentityClaim}
    (now : ∀ claim ∈ batch, claim.sequence = next) (apart : batch.Pairwise ClaimsApart) :
    (claims ++ batch).Pairwise ClaimsApart := by
  refine List.pairwise_append.2 ⟨h.apart, apart, fun old inOld new inNew same => ?_⟩
  have earlier := h.before old inOld
  rw [same, now new inNew] at earlier
  exact absurd earlier (UInt64.lt_irrefl _)

section Trim

variable [StdSort] {maxTotal maxHistory : UInt32} {batch batch' kept : List IdentityClaim}

/-- Trimming keeps the same claims whatever the order of the newest batch (source `trim_claims`). -/
lemma trimClaims_batch (h : Batched next claims) (perm : batch.Perm batch')
    (now : ∀ claim ∈ batch, claim.sequence = next) (apart : batch.Pairwise ClaimsApart)
    (trim : trimClaims (claims ++ batch) maxTotal maxHistory = .ok kept) :
    ∃ kept', trimClaims (claims ++ batch') maxTotal maxHistory = .ok kept' ∧ kept.Perm kept' := by
  have bare : ∀ claim ∈ batch, isCovered claimCovers (claims ++ batch) claim = false := by
    intro claim member
    rw [isCovered, List.any_eq_false]
    intro other inside covers
    simp only [claimCovers, decide_eq_true_eq] at covers
    obtain ⟨_, _, _, _, _, later⟩ := covers
    rw [now claim member] at later
    obtain old | new := List.mem_append.1 inside
    · exact absurd (h.before other old) (UInt64.lt_asymm later)
    · rw [now other new] at later
      exact absurd later (UInt64.lt_irrefl _)
  rw [trimClaims, bind_eq_ok] at trim
  obtain ⟨erased, erase, e⟩ := trim
  cases e
  obtain ⟨left, sub, rfl, erase'⟩ := eraseSuperseded_batch perm bare erase
  have staggered : Staggered claimGroup (·.sequence) (left ++ batch) :=
    Batched.staggered ((h.sublist sub (UInt64.le_refl _)).append now apart)
  refine ⟨dropExcess claimGroup (·.sequence) maxHistory.toNat (left ++ batch'), ?_,
    dropExcess_perm staggered (perm.append_left left)⟩
  have same : (claims ++ batch').length = (claims ++ batch).length := by
    rw [List.length_append, List.length_append, perm.length_eq]
  rw [trimClaims, same, bind_eq_ok]
  exact ⟨left ++ batch', erase', rfl⟩

end Trim

section Run

variable {config : RegistryConfig} {s s' : State} {authority : AuthorityToken}
  {generation : Generation} {sequence : Sequence} {now : WallNs} {domain : ClockDomainId}
  {record : ModuleRecord}

/-- The claims of a registration are about different attributes, and apart when they name different
values (source `Registry::register_module`, `seen`). -/
lemma registration_apart {values : List IdentityFieldValue} {provenance : Provenance}
    (fields : (values.map fun value => (value.field, value.subkey)).Nodup)
    (names : (values.map (·.value)).Nodup) :
    (values.map (identityClaim authority generation sequence now domain record
      provenance)).Pairwise ClaimsApart := by
  have both := (List.pairwise_map.1 fields).and (List.pairwise_map.1 names)
  refine List.pairwise_map.2 (both.imp fun {a b} differ _ => ?_)
  obtain ⟨field, value⟩ := differ
  refine ⟨fun same => field ?_, value⟩
  simp only [claimGroup, identityClaim, Prod.mk.injEq] at same
  exact Prod.ext same.1 same.2.1

/-- The claims of every module came in batches without repetitions. -/
def ClaimsBatched (s : State) : Prop :=
  ∀ (uid : ModuleUid) record, s.modules[uid]? = some record → Batched s.nextSequence record.claims

/-- The claims a registration finds came in batches (source `Registry::register_module`, the
lookup). -/
lemma ClaimsBatched.located (h : ClaimsBatched s) {uid : ModuleUid} {located : ModuleRecord}
    (locate : Located s.modules uid located) : Batched s.nextSequence located.claims := by
  obtain ⟨_, claims, _⟩ | ⟨record, found, _, claims, _⟩ := locate.statements
  · rw [claims]
    exact ⟨fun _ member => absurd member List.not_mem_nil, List.Pairwise.nil⟩
  · rw [claims]
    exact h uid record found

variable [StdSort]

/-- A step keeps the claims in batches when it names no value twice and the sequence counter does
not wrap. -/
lemma ClaimsBatched.step (coherent : Coherent config s) (h : ClaimsBatched s) {call : Call}
    (ok : NamesApart s call) (taken : step config s call = some s') : ClaimsBatched s' := by
  have checked := (step_eq_some taken).1
  have moduleStep := step_moduleStep coherent taken
  have grows := ok.1.grows taken
  have later : s.nextSequence ≤ s'.nextSequence := UInt64.le_iff_toNat_le.2 grows.le
  have kept : ∀ {uid : ModuleUid} {record : ModuleRecord}, s.modules[uid]? = some record →
      Batched s'.nextSequence record.claims := fun found =>
    (h _ _ found).sublist (List.Sublist.refl _) later
  -- trimming the old claims and a new batch leaves claims in batches
  have added : ∀ {old batch claims : List IdentityClaim} {maxTotal maxHistory : UInt32},
      Batched s.nextSequence old → (∀ claim ∈ batch, claim.sequence = s.nextSequence) →
      batch.Pairwise ClaimsApart → trimClaims (old ++ batch) maxTotal maxHistory = .ok claims →
      Batched s'.nextSequence claims := by
    intro old batch claims _ _ batched now apart trim
    have sub := trimClaims_sublist trim
    refine ⟨fun claim member => ?_, (batched.append now apart).sublist sub⟩
    rw [UInt64.lt_iff_toNat_lt]
    obtain inOld | inBatch := List.mem_append.1 (sub.subset member)
    · exact (UInt64.lt_iff_toNat_lt.1 (batched.before claim inOld)).trans grows
    · rw [now claim inBatch]
      exact grows
  obtain ⟨operation, clock⟩ := call
  intro uid record found
  cases moduleStep with
  | stay _ written =>
    rw [written] at found
    exact kept found
  | move _ old same written =>
    rw [written, getElem?_insert_iff] at found
    obtain ⟨rfl, rfl⟩ | ⟨_, found⟩ := found
    · rw [same.claims]
      exact kept old
    · exact kept found
  | registerModule _ _ locate trim same written =>
    rw [written, getElem?_insert_iff] at found
    obtain ⟨rfl, rfl⟩ | ⟨_, found⟩ := found
    · rw [same.claims]
      refine added (h.located locate) ?_ (registration_apart checked.2.2.2 ok.2) trim
      rintro claim member
      obtain ⟨value, _, rfl⟩ := List.mem_map.1 member
      rfl
    · exact kept found
  | updateIdentity _ old trim written =>
    rw [written, getElem?_insert_iff] at found
    obtain ⟨rfl, rfl⟩ | ⟨_, found⟩ := found
    · refine added (h _ _ old) ?_ (List.pairwise_singleton _ _) trim
      intro claim member
      rw [List.mem_singleton.1 member]
      rfl
    · exact kept found
  | publishCapability _ old _ written =>
    rw [written, getElem?_insert_iff] at found
    obtain ⟨rfl, rfl⟩ | ⟨_, found⟩ := found
    · have batched := kept old
      exact batched
    · exact kept found
  | ingestHealth _ old _ _ _ _ _ written =>
    rw [written, getElem?_insert_iff] at found
    obtain ⟨rfl, rfl⟩ | ⟨_, found⟩ := found
    · have batched := kept old
      exact batched
    · exact kept found

/-- Along runs that name no value twice before the sequence counter wraps, the claims of every
module come in batches without repetitions. -/
theorem ClaimsBatched.run
    (reached : Run (TransceiverRegistry.step config) NamesApart State.initial s) :
    ClaimsBatched s :=
  coherent_invariant reached (fun uid record found => by simp [State.initial] at found)
    fun _ _ _ coherent h ok taken => h.step coherent ok taken

end Run

end TransceiverRegistry

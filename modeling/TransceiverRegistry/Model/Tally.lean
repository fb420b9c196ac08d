import TransceiverRegistry.Core.Taxonomy
import TransceiverRegistry.Lib.Revision
import TransceiverRegistry.Lib.Sort

/-!
# The tally of one attribute

Port of what `build_identity_consensus` of `identity.cpp` and `build_capability_consensus` of
`capability.cpp` do alike with the statements about one attribute: the live statements are sorted, of
every author the newest stays, and the values of what stays are compared.
-/

namespace TransceiverRegistry

open Lib

/-- What the consensus reads of a statement. -/
structure Reading (α β : Type) where
  live : α → Bool
  sequence : α → Sequence
  author : α → SourceId × SourceEpoch
  value : α → β
  equal : β → β → Bool
  blank : β

/-- What the statements about one attribute come to. -/
structure Tally (α β : Type) where
  outcome : ConsensusOutcome
  hasValue : Bool
  value : β
  kept : List α
  superseded : List α

/-- What a tally says: the outcome, and the value when there is one. -/
def Tally.verdict {α β : Type} (tally : Tally α β) : ConsensusOutcome × Option β :=
  (tally.outcome, if tally.hasValue then some tally.value else none)

namespace Reading

variable {α β : Type} (R : Reading α β)

/-- The older statement first (source `by_sequence`). -/
def bySequence (a b : α) : Bool := R.sequence a < R.sequence b

/-- The live statements, the oldest first (source `live` after its sort). -/
def liveSorted (group : List α) : List α := stableSort R.bySequence (group.filter R.live)

/-- The other statements, the oldest first (source `superseded` after its first sort). -/
def fencedSorted (group : List α) : List α :=
  stableSort R.bySequence (group.filter fun a => !R.live a)

/-- All live values agree with the first one (source `agrees`). -/
def agrees (first : α) (rest : List α) : Bool :=
  rest.all fun a => R.equal (R.value first) (R.value a)

/-- Compare the statements that stay (source the branches on `live.size()`). -/
def compare (kept superseded : List α) : Tally α β :=
  match kept with
  | [] =>
    { outcome := if superseded.isEmpty then .unknown else .superseded
      hasValue := false, value := R.blank, kept, superseded }
  | [only] => { outcome := .singleSource, hasValue := true, value := R.value only, kept, superseded }
  | first :: rest =>
    if R.agrees first rest then
      { outcome := .agreed, hasValue := true, value := R.value first, kept, superseded }
    else { outcome := .conflicting, hasValue := false, value := R.blank, kept, superseded }

/-- Compare the statements about one attribute (source the body of the loop over `grouped`). -/
def tally (group : List α) : Tally α β :=
  let revised := newestPerAuthor R.author (R.fencedSorted group) (R.liveSorted group)
  R.compare revised.1 (stableSort R.bySequence revised.2)

/-- The statements are told apart by their sequences. -/
def Distinct (group : List α) : Prop := group.Pairwise fun a b => R.sequence a ≠ R.sequence b

/-- The values of any two statements agree. -/
def Agree (kept : List α) : Prop := kept.Pairwise fun a b => R.equal (R.value a) (R.value b) = true

/-- What the tally of an attribute owes to the statements about it. -/
structure Accounts (group kept superseded : List α) (outcome : ConsensusOutcome)
    (hasValue : Bool) : Prop where
  once : (kept ++ superseded).Perm group
  authors : kept.Pairwise fun a b => R.author a ≠ R.author b
  newest : ∀ a, a ∈ kept ↔ a ∈ group ∧ R.live a = true ∧
    ∀ b ∈ group, R.live b = true → R.author b = R.author a → R.sequence b ≤ R.sequence a
  conflicting : outcome = .conflicting ↔ ¬ R.Agree kept
  hasValue : hasValue = true ↔ kept ≠ [] ∧ R.Agree kept

variable {R} {group group' kept superseded : List α}

/-- The place of a statement in the order of the sequences. -/
def time (R : Reading α β) (a : α) : Nat := (R.sequence a).toNat

/-- Sequences order the statements (source `by_sequence`). -/
lemma bySequence_eq_false {a b : α} : R.bySequence a b = false ↔ R.time b ≤ R.time a := by
  rw [bySequence, decide_eq_false_iff_not, UInt64.not_lt, UInt64.le_iff_toNat_le]
  rfl

/-- Sequences order the statements (source `by_sequence`). -/
lemma strictWeakOn_bySequence (l : List α) : StrictWeakOn R.bySequence l :=
  strictWeakOn_rank R.time (fun _ _ => decide_eq_true_iff.trans UInt64.lt_iff_toNat_lt) l

/-- Statements told apart by their sequences are the same when neither is older. -/
lemma Distinct.eq_of_not_before (distinct : R.Distinct group) {a b : α} (ha : a ∈ group)
    (hb : b ∈ group) (ab : R.bySequence a b = false) (ba : R.bySequence b a = false) : a = b := by
  by_contra ne
  have symm : Std.Symm fun a b => R.sequence a ≠ R.sequence b := ⟨fun _ _ => Ne.symm⟩
  have apart := List.Pairwise.forall distinct ha hb ne
  rw [bySequence_eq_false] at ab ba
  exact apart (UInt64.toNat_inj.1 (le_antisymm ba ab))

/-- The sorted live statements ascend (source the sort of `live`). -/
lemma Distinct.ascending (distinct : R.Distinct group) :
    (R.liveSorted group).Pairwise fun a b => R.time a < R.time b := by
  have sorted : SortedBy R.bySequence (R.liveSorted group) :=
    stableSort_sorted (strictWeakOn_bySequence _)
  have apart : R.Distinct (R.liveSorted group) :=
    ((stableSort_perm _ _).pairwise_iff Ne.symm).2 (distinct.filter _)
  refine (sorted.and apart).imp fun {a b} both => ?_
  exact lt_of_le_of_ne (bySequence_eq_false.1 both.1) fun e => both.2 (UInt64.toNat_inj.1 e)

/-- The sorted live statements are the live ones. -/
lemma mem_liveSorted {a : α} : a ∈ R.liveSorted group ↔ a ∈ group ∧ R.live a = true := by
  rw [liveSorted, (stableSort_perm _ _).mem_iff, List.mem_filter]

/-- Two lists in the order of the sequences with the same statements are the same. -/
lemma eq_of_ascending {l l' : List α} (ascending : l.Pairwise fun a b => R.time a < R.time b)
    (ascending' : l'.Pairwise fun a b => R.time a < R.time b) (same : ∀ a, a ∈ l ↔ a ∈ l') :
    l = l' := by
  have nodup {l : List α} (ascending : l.Pairwise fun a b => R.time a < R.time b) : l.Nodup :=
    ascending.imp fun {a b} less e => by
      rw [e] at less
      exact Nat.lt_irrefl _ less
  have perm := (List.perm_ext_iff_of_nodup (nodup ascending) (nodup ascending')).2 same
  exact perm.eq_of_pairwise (fun a b _ _ less less' => absurd less' (Nat.lt_asymm less)) ascending
    ascending'

/-- Sorting statements that are told apart does not depend on their order. -/
lemma Distinct.stableSort_congr (distinct : R.Distinct group) (perm : group.Perm group') :
    stableSort R.bySequence group = stableSort R.bySequence group' :=
  Lib.stableSort_congr (strictWeakOn_bySequence _) perm fun _ ha _ hb ab ba =>
    distinct.eq_of_not_before ha hb ab ba

/-- The comparison of two statements or more (source the branches on `live.size()`). -/
lemma compare_cons_cons (R : Reading α β) (first second : α) (rest superseded : List α) :
    R.compare (first :: second :: rest) superseded =
      if R.agrees first (second :: rest) then
        { outcome := .agreed, hasValue := true, value := R.value first
          kept := first :: second :: rest, superseded }
      else
        { outcome := .conflicting, hasValue := false, value := R.blank
          kept := first :: second :: rest, superseded } := rfl

/-- The comparison keeps what it is given (source the branches on `live.size()`). -/
@[simp] lemma compare_kept (R : Reading α β) (kept superseded : List α) :
    (R.compare kept superseded).kept = kept := by
  cases kept with
  | nil => rfl
  | cons first rest =>
    cases rest with
    | nil => rfl
    | cons second rest =>
      rw [compare_cons_cons]
      split <;> rfl

/-- The comparison keeps what it is given (source the branches on `live.size()`). -/
@[simp] lemma compare_superseded (R : Reading α β) (kept superseded : List α) :
    (R.compare kept superseded).superseded = superseded := by
  cases kept with
  | nil => rfl
  | cons first rest =>
    cases rest with
    | nil => rfl
    | cons second rest =>
      rw [compare_cons_cons]
      split <;> rfl

/-- Agreeing with the first value is agreeing with each other (source `agrees`). -/
lemma agrees_iff (symm : ∀ u v, R.equal u v = true → R.equal v u = true)
    (trans : ∀ u v w, R.equal u v = true → R.equal v w = true → R.equal u w = true) {first : α}
    {rest : List α} : R.agrees first rest = true ↔ R.Agree (first :: rest) := by
  rw [agrees, List.all_eq_true, Agree, List.pairwise_cons]
  refine ⟨fun all => ⟨all, ?_⟩, fun both => both.1⟩
  refine List.Pairwise.imp_of_mem ?_ (List.pairwise_of_forall (R := fun _ _ => True) fun _ _ => trivial)
  intro a b ha hb _
  exact trans _ _ _ (symm _ _ (all a ha)) (all b hb)

/-- What the comparison answers (source the branches on `live.size()`). -/
lemma compare_spec (symm : ∀ u v, R.equal u v = true → R.equal v u = true)
    (trans : ∀ u v w, R.equal u v = true → R.equal v w = true → R.equal u w = true)
    (kept superseded : List α) :
    ((R.compare kept superseded).outcome = .conflicting ↔ ¬ R.Agree kept) ∧
      ((R.compare kept superseded).hasValue = true ↔ kept ≠ [] ∧ R.Agree kept) := by
  cases kept with
  | nil => cases superseded <;> simp [compare, Agree]
  | cons first rest =>
    cases rest with
    | nil => simp [compare, Agree]
    | cons second rest =>
      have agree : R.agrees first (second :: rest) = true ↔ R.Agree (first :: second :: rest) :=
        agrees_iff symm trans
      rw [compare_cons_cons, ← agree]
      split <;> simp [*]

/-- Whether the attribute is conflicting and the value it has are decided by what stays (source the
branches on `live.size()`). -/
lemma compare_congr (R : Reading α β) (kept superseded superseded' : List α) :
    ((R.compare kept superseded).outcome = .conflicting ↔
        (R.compare kept superseded').outcome = .conflicting) ∧
      (R.compare kept superseded).hasValue = (R.compare kept superseded').hasValue ∧
      (R.compare kept superseded).value = (R.compare kept superseded').value := by
  cases kept with
  | nil => cases superseded <;> cases superseded' <;> simp [compare]
  | cons first rest =>
    cases rest with
    | nil => simp [compare]
    | cons second rest =>
      rw [compare_cons_cons, compare_cons_cons]
      split <;> simp

/-- An attribute has a value when one source names it or several agree (source the branches on
`live.size()`). -/
lemma compare_established (R : Reading α β) {kept superseded : List α}
    (known : (R.compare kept superseded).hasValue = true) :
    (R.compare kept superseded).outcome = .agreed ∨
      (R.compare kept superseded).outcome = .singleSource := by
  cases kept with
  | nil => cases known
  | cons first rest =>
    cases rest with
    | nil => exact .inr rfl
    | cons second rest =>
      rw [compare_cons_cons] at known ⊢
      split at known
      · rename_i agree
        rw [if_pos agree]
        exact .inl rfl
      · cases known

/-- An attribute has a value when one source names it or several agree (source the body of the
loop). -/
lemma tally_established (R : Reading α β) (known : (R.tally group).hasValue = true) :
    (R.tally group).outcome = .agreed ∨ (R.tally group).outcome = .singleSource :=
  R.compare_established known

/-- What stays, and what does not, is what there was (source the body of the loop). -/
lemma tally_perm (R : Reading α β) (group : List α) :
    ((R.tally group).kept ++ (R.tally group).superseded).Perm group := by
  have revised := newestPerAuthor_perm R.author (R.fencedSorted group) (R.liveSorted group)
  have sorted := (stableSort_perm R.bySequence (group.filter R.live)).append
    (stableSort_perm R.bySequence (group.filter fun a => !R.live a))
  rw [tally, compare_kept, compare_superseded]
  refine ((stableSort_perm _ _).append_left _).trans (revised.trans ?_)
  exact sorted.trans (List.filter_append_perm R.live group)

/-- What stays is the newest live statement of every author (source `newest_per_source`). -/
lemma Distinct.current (distinct : R.Distinct group) :
    Current R.author R.time (group.filter R.live) (R.tally group).kept := by
  have current : Current R.author R.time (R.liveSorted group)
      (newestPerAuthor R.author (R.fencedSorted group) (R.liveSorted group)).1 :=
    newestPerAuthor_current (R.fencedSorted group) distinct.ascending
  have same : ∀ a, a ∈ R.liveSorted group ↔ a ∈ group.filter R.live := fun _ =>
    (stableSort_perm _ _).mem_iff
  rw [tally, compare_kept]
  exact ⟨current.authors, by simpa only [same] using current.mem_iff⟩

/-- The tally accounts for the statements of an attribute (source the body of the loop). -/
lemma Distinct.accounts (distinct : R.Distinct group)
    (symm : ∀ u v, R.equal u v = true → R.equal v u = true)
    (trans : ∀ u v w, R.equal u v = true → R.equal v w = true → R.equal u w = true) :
    R.Accounts group (R.tally group).kept (R.tally group).superseded (R.tally group).outcome
      (R.tally group).hasValue where
  once := tally_perm R group
  authors := distinct.current.authors
  newest a := by
    rw [distinct.current.mem_iff a, List.mem_filter, and_assoc]
    simp only [List.mem_filter, and_imp, UInt64.le_iff_toNat_le, time]
  conflicting := by
    rw [tally, compare_kept]
    exact (compare_spec symm trans _ _).1
  hasValue := by
    rw [tally, compare_kept]
    exact (compare_spec symm trans _ _).2

/-- The tally does not depend on the order of the statements (source the sorts). -/
lemma Distinct.tally_congr (distinct : R.Distinct group) (perm : group.Perm group') :
    R.tally group = R.tally group' := by
  have live : R.liveSorted group = R.liveSorted group' :=
    Distinct.stableSort_congr (distinct.filter _) (perm.filter _)
  have fenced : R.fencedSorted group = R.fencedSorted group' :=
    Distinct.stableSort_congr (distinct.filter _) (perm.filter _)
  rw [tally, live, fenced, tally]

/-- Only live statements decide whether an attribute is conflicting and which value it has (source
the body of the loop). -/
lemma tally_of_live (R : Reading α β) (same : group.filter R.live = group'.filter R.live) :
    ((R.tally group).outcome = .conflicting ↔ (R.tally group').outcome = .conflicting) ∧
      (R.tally group).hasValue = (R.tally group').hasValue ∧
      (R.tally group).value = (R.tally group').value := by
  have live : R.liveSorted group = R.liveSorted group' := by rw [liveSorted, same, liveSorted]
  have kept : (newestPerAuthor R.author (R.fencedSorted group) (R.liveSorted group)).1 =
      (newestPerAuthor R.author (R.fencedSorted group') (R.liveSorted group')).1 := by
    rw [live]
    exact newestPerAuthor_kept _ _ _ _
  rw [tally, kept, tally]
  exact R.compare_congr _ _ _

/-- Agreeing is a matter of the values. -/
lemma agree_iff_values : R.Agree kept ↔
    (kept.map R.value).Pairwise fun u v => R.equal u v = true := by
  rw [Agree, List.pairwise_map]

/-- The comparison does not depend on the order of the values, up to the first one of those that
agree (source the branches on `live.size()`). -/
lemma compare_reordered (symm : ∀ u v, R.equal u v = true → R.equal v u = true)
    (trans : ∀ u v w, R.equal u v = true → R.equal v w = true → R.equal u w = true)
    {kept kept' superseded superseded' : List α}
    (perm : (kept.map R.value).Perm (kept'.map R.value))
    (none : kept = [] → superseded.isEmpty = superseded'.isEmpty) :
    (R.compare kept superseded).outcome = (R.compare kept' superseded').outcome ∧
      (R.compare kept superseded).hasValue = (R.compare kept' superseded').hasValue ∧
      ((R.Agree kept → (kept.map R.value).head? = (kept'.map R.value).head?) →
        (R.compare kept superseded).value = (R.compare kept' superseded').value) := by
  have size : kept.length = kept'.length := by simpa using perm.length_eq
  match kept, kept' with
  | [], [] => simp [compare, none rfl]
  | [a], [b] =>
    have same : R.value a = R.value b := by simpa using perm
    simp [compare, same]
  | a :: b :: rest, a' :: b' :: rest' =>
    have agree : R.Agree (a :: b :: rest) ↔ R.Agree (a' :: b' :: rest') := by
      rw [agree_iff_values, agree_iff_values]
      exact perm.pairwise_iff fun {u v} => symm u v
    rw [compare_cons_cons, compare_cons_cons]
    by_cases agrees : R.Agree (a :: b :: rest)
    · rw [if_pos ((agrees_iff symm trans).2 agrees),
        if_pos ((agrees_iff symm trans).2 (agree.1 agrees))]
      exact ⟨rfl, rfl, fun first => by simpa using first agrees⟩
    · rw [if_neg fun all => agrees ((agrees_iff symm trans).1 all),
        if_neg fun all => agrees (agree.2 ((agrees_iff symm trans).1 all))]
      exact ⟨rfl, rfl, fun _ => rfl⟩

/-- The tally of statements of different authors does not depend on the order of their values, up to
the first one of those that agree (source the body of the loop). -/
lemma tally_reordered (symm : ∀ u v, R.equal u v = true → R.equal v u = true)
    (trans : ∀ u v w, R.equal u v = true → R.equal v w = true → R.equal u w = true)
    (apart : (R.liveSorted group).Pairwise fun a b => R.author a ≠ R.author b)
    (apart' : (R.liveSorted group').Pairwise fun a b => R.author a ≠ R.author b)
    (some : group ≠ []) (some' : group' ≠ [])
    (perm : ((R.liveSorted group).map R.value).Perm ((R.liveSorted group').map R.value)) :
    (R.tally group).outcome = (R.tally group').outcome ∧
      (R.tally group).hasValue = (R.tally group').hasValue ∧
      ((R.Agree (R.liveSorted group) →
          ((R.liveSorted group).map R.value).head? = ((R.liveSorted group').map R.value).head?) →
        (R.tally group).value = (R.tally group').value) := by
  have fenced {group : List α} (some : group ≠ []) (none : R.liveSorted group = []) :
      (stableSort R.bySequence (R.fencedSorted group)).isEmpty = false := by
    rw [List.isEmpty_eq_false_iff]
    intro nothing
    have whole := List.filter_append_perm R.live group
    have live := stableSort_perm R.bySequence (group.filter R.live)
    have dead := (stableSort_perm R.bySequence (R.fencedSorted group)).trans
      (stableSort_perm R.bySequence (group.filter fun a => !R.live a))
    rw [nothing] at dead
    rw [← liveSorted, none] at live
    rw [live.symm.eq_nil, dead.symm.eq_nil] at whole
    exact some whole.symm.eq_nil
  rw [tally, tally, newestPerAuthor_of_apart apart, newestPerAuthor_of_apart apart']
  refine compare_reordered symm trans perm fun none => ?_
  have none : R.liveSorted group = [] := none
  have none' : R.liveSorted group' = [] := by
    rw [none] at perm
    exact List.map_eq_nil_iff.1 perm.symm.eq_nil
  exact (fenced some none).trans (fenced some' none').symm

/-- The value of an attribute whose live statements of different authors agree is the oldest one
(source the branches on `live.size()`). -/
lemma tally_agreeing (symm : ∀ u v, R.equal u v = true → R.equal v u = true)
    (trans : ∀ u v w, R.equal u v = true → R.equal v w = true → R.equal u w = true)
    (apart : (R.liveSorted group).Pairwise fun a b => R.author a ≠ R.author b)
    (agree : R.Agree (R.liveSorted group)) {v : β}
    (first : ((R.liveSorted group).map R.value).head? = some v) :
    (R.tally group).verdict.2 = some v := by
  rw [tally, newestPerAuthor_of_apart apart]
  generalize R.liveSorted group = live at agree first
  match live with
  | [] => cases first
  | [a] => exact first
  | a :: b :: rest =>
    dsimp only
    rw [compare_cons_cons, if_pos ((agrees_iff symm trans).2 agree)]
    exact first

/-- Two tallies of the same older values and of newer ones in two orders say the same exactly when
there are older values, or the newer ones disagree, or they begin with the same one (source the body
of the loop). -/
lemma tally_reordered_iff (symm : ∀ u v, R.equal u v = true → R.equal v u = true)
    (trans : ∀ u v w, R.equal u v = true → R.equal v w = true → R.equal u w = true)
    (apart : (R.liveSorted group).Pairwise fun a b => R.author a ≠ R.author b)
    (apart' : (R.liveSorted group').Pairwise fun a b => R.author a ≠ R.author b)
    (some : group ≠ []) (some' : group' ≠ []) {base values values' : List β}
    (known : (R.liveSorted group).map R.value = base ++ values)
    (known' : (R.liveSorted group').map R.value = base ++ values') (perm : values.Perm values') :
    (R.tally group).verdict = (R.tally group').verdict ↔
      base ≠ [] ∨ ¬ values.Pairwise (fun u v => R.equal u v = true) ∨
        values.head? = values'.head? := by
  constructor
  · intro same
    by_contra unsettled
    simp only [not_or, not_not] at unsettled
    obtain ⟨rfl, agree, differ⟩ := unsettled
    rw [List.nil_append] at known known'
    have agree' := (perm.pairwise_iff fun {u v} => symm u v).1 agree
    cases values with
    | nil => exact differ (by rw [perm.symm.eq_nil])
    | cons v rest =>
      cases values' with
      | nil => exact differ (by rw [perm.eq_nil])
      | cons v' rest' =>
        have holds := tally_agreeing symm trans apart (agree_iff_values.2 (known ▸ agree))
          (v := v) (by rw [known, List.head?_cons])
        have holds' := tally_agreeing symm trans apart' (agree_iff_values.2 (known' ▸ agree'))
          (v := v') (by rw [known', List.head?_cons])
        rw [same, holds'] at holds
        exact differ holds.symm
  · intro settled
    obtain ⟨outcome, hasValue, value⟩ := tally_reordered symm trans apart apart' some some'
      (by rw [known, known']; exact perm.append_left base)
    rw [Tally.verdict, outcome, hasValue, value, Tally.verdict]
    intro agree
    rw [known, known']
    cases base with
    | cons b base => rfl
    | nil =>
      rw [agree_iff_values, known, List.nil_append] at agree
      obtain older | disagree | first := settled
      · exact absurd rfl older
      · exact absurd agree disagree
      · exact first

end Reading

end TransceiverRegistry

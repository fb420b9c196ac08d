import TransceiverRegistry.Lib.Supersession
import TransceiverRegistry.Registry.State

/-!
# Keeping histories bounded

Port of `trim_claims`, `trim_declarations` and `trim_samples` of `registry.cpp`. The first two
trims share one shape: superseded entries are erased until the budget is met, then the oldest
entries of every long group are dropped.
-/

namespace TransceiverRegistry

open Lib

section Superseded

variable {α κ : Type}

/-- Erase the first superseded entry until the budget is met (source `trim_claims`, the first
loop). -/
def eraseSuperseded (superseded : List α → α → Bool) (maxTotal : Nat) (exhausted : Error) :
    (guard : Nat) → List α → Result (List α)
  | 0, l => if maxTotal < l.length then .error exhausted else .ok l
  | guard + 1, l =>
    if maxTotal < l.length then
      if l.any (superseded l) then
        eraseSuperseded superseded maxTotal exhausted guard (l.eraseP (superseded l))
      else .error exhausted
    else .ok l

/-- The oldest entries of a group beyond the bound (source `trim_claims`, the loop over
`grouped`). -/
def excessOf [StdSort] [DecidableEq κ] (group : α → κ) (sequence : α → Sequence)
    (maxHistory : Nat) (l : List α) (g : κ) : List (α × Nat) :=
  let members := l.zipIdx.filter fun entry => group entry.1 = g
  let sorted := StdSort.sort (fun a b => decide (sequence a.1 < sequence b.1)) members
  sorted.take (members.length - maxHistory)

/-- Keep at most the newest entries of every group (source `trim_claims`, the second part). -/
def dropExcess [StdSort] [DecidableEq κ] (group : α → κ) (sequence : α → Sequence)
    (maxHistory : Nat) (l : List α) : List α :=
  (l.zipIdx.filter fun entry =>
    (excessOf group sequence maxHistory l (group entry.1)).all fun old => old.2 ≠ entry.2).map
    (·.1)

/-- The first trim only removes entries. -/
lemma eraseSuperseded_sublist {superseded : List α → α → Bool} {maxTotal : Nat}
    {exhausted : Error} {guard : Nat} {l l' : List α}
    (h : eraseSuperseded superseded maxTotal exhausted guard l = .ok l') : l'.Sublist l := by
  induction guard generalizing l with
  | zero =>
    unfold eraseSuperseded at h
    split at h
    · cases h
    · cases h
      exact List.Sublist.refl _
  | succ guard ih =>
    unfold eraseSuperseded at h
    split at h
    · split at h
      · exact (ih h).trans List.eraseP_sublist
      · cases h
    · cases h
      exact List.Sublist.refl _

/-- The first trim meets the budget. -/
lemma eraseSuperseded_length_le {superseded : List α → α → Bool} {maxTotal : Nat}
    {exhausted : Error} {guard : Nat} {l l' : List α}
    (h : eraseSuperseded superseded maxTotal exhausted guard l = .ok l') :
    l'.length ≤ maxTotal := by
  induction guard generalizing l with
  | zero =>
    unfold eraseSuperseded at h
    split at h
    · cases h
    · rename_i fits
      cases h
      exact Nat.not_lt.1 fits
  | succ guard ih =>
    unfold eraseSuperseded at h
    split at h
    · split at h
      · exact ih h
      · cases h
    · rename_i fits
      cases h
      exact Nat.not_lt.1 fits

/-- The second trim only removes entries. -/
lemma dropExcess_sublist [StdSort] [DecidableEq κ] (group : α → κ) (sequence : α → Sequence)
    (maxHistory : Nat) (l : List α) : (dropExcess group sequence maxHistory l).Sublist l := by
  have h := (l.zipIdx.filter_sublist (p := fun entry =>
    (excessOf group sequence maxHistory l (group entry.1)).all fun old => old.2 ≠ entry.2)).map
    Prod.fst
  rwa [List.zipIdx_map_fst] at h

/-- Without a history every entry is dropped (source `trim_claims`, the second part). -/
lemma dropExcess_zero [StdSort] [DecidableEq κ] (group : α → κ)
    (sequence : α → Sequence) (l : List α) : dropExcess group sequence 0 l = [] := by
  refine List.map_eq_nil_iff.2 (List.filter_eq_nil_iff.2 fun entry member keeps => ?_)
  -- every entry is one of the oldest of its group
  have old : entry ∈ excessOf group sequence 0 l (group entry.1) := by
    simp only [excessOf, Nat.sub_zero]
    rw [← (StdSort.perm _ _).length_eq, List.take_length]
    exact (StdSort.perm _ _).symm.subset (List.mem_filter.2 ⟨member, decide_eq_true rfl⟩)
  exact of_decide_eq_true (List.all_eq_true.1 keeps entry old) rfl

variable {covers : α → α → Bool}

/-- The first trim keeps every entry that no entry covers. -/
lemma eraseSuperseded_uncovered (order : Covering covers) {maxTotal : Nat} {exhausted : Error}
    {guard : Nat} {l l' : List α}
    (h : eraseSuperseded (isCovered covers) maxTotal exhausted guard l = .ok l') :
    uncovered covers l' = uncovered covers l := by
  induction guard generalizing l with
  | zero =>
    unfold eraseSuperseded at h
    split at h
    · cases h
    · cases h
      rfl
  | succ guard ih =>
    unfold eraseSuperseded at h
    split at h
    · split at h
      · rename_i some
        rw [ih h, uncovered_eraseP order some]
      · cases h
    · cases h
      rfl

/-- The first trim gives up exactly when the entries that no entry covers exceed the budget. -/
lemma eraseSuperseded_eq_error (order : Covering covers) {maxTotal : Nat} {exhausted e : Error}
    {guard : Nat} {l : List α} (enough : l.length ≤ guard) :
    eraseSuperseded (isCovered covers) maxTotal exhausted guard l = .error e ↔
      e = exhausted ∧ maxTotal < (uncovered covers l).length := by
  induction guard generalizing l with
  | zero =>
    obtain rfl : l = [] := List.length_eq_zero_iff.1 (Nat.le_zero.1 enough)
    simp [eraseSuperseded, uncovered]
  | succ guard ih =>
    unfold eraseSuperseded
    split
    · rename_i exceeds
      split
      · rename_i some
        have shorter : (l.eraseP (isCovered covers l)).length = l.length - 1 := by
          rw [List.length_eraseP, if_pos some]
        rw [ih (by omega), uncovered_eraseP order some]
      · rename_i none
        rw [uncovered_eq_self (by simpa using none)]
        simp [exceeds, eq_comm]
    · rename_i fits
      have : (uncovered covers l).length ≤ l.length := length_uncovered_le
      simp only [reduceCtorEq, false_iff, not_and]
      omega

/-- Another entry of a list stands before or after the given one. -/
lemma mem_append_of_index_ne {front back : List α} {a b : α} {i : Nat}
    (here : (front ++ a :: back)[i]? = some b) (other : i ≠ front.length) : b ∈ front ++ back := by
  rcases Nat.lt_or_gt_of_ne other with before | after
  · rw [List.getElem?_append_left before] at here
    exact List.mem_append_left _ (List.mem_of_getElem? here)
  · rw [List.getElem?_append_right after.le] at here
    obtain ⟨k, e⟩ := Nat.exists_eq_add_of_lt after
    have shift : i - front.length = k + 1 := by omega
    rw [shift, List.getElem?_cons_succ] at here
    exact List.mem_append_right _ (List.mem_of_getElem? here)

/-- The second trim keeps the newest entry of every group. -/
lemma mem_dropExcess_of_newest [StdSort] [DecidableEq κ] {group : α → κ} {sequence : α → Sequence}
    {maxHistory : Nat} (room : 0 < maxHistory) {front back : List α} {a : α}
    (newest : ∀ b ∈ front ++ back, group b = group a → sequence b < sequence a) :
    a ∈ dropExcess group sequence maxHistory (front ++ a :: back) := by
  have here : (a, front.length) ∈ (front ++ a :: back).zipIdx := by
    simp [List.mk_mem_zipIdx_iff_getElem?]
  refine List.mem_map.2 ⟨(a, front.length), List.mem_filter.2 ⟨here, ?_⟩, rfl⟩
  rw [List.all_eq_true]
  rintro old dropped
  rw [decide_eq_true_iff]
  intro same
  -- the newest entry is the last one of its group, and the last one is not dropped
  let lt := fun x y : α × Nat => decide (sequence x.1 < sequence y.1)
  let members := (front ++ a :: back).zipIdx.filter fun entry => group entry.1 = group a
  have perm : (StdSort.sort lt members).Perm members := StdSort.perm lt members
  have weak : StrictWeakOn lt members :=
    strictWeakOn_rank (fun x => (sequence x.1).toNat) (fun x y => by
      simp [lt, UInt64.lt_iff_toNat_lt]) members
  have distinct : (StdSort.sort lt members).Nodup := by
    have indices : ((front ++ a :: back).zipIdx.map Prod.snd).Nodup := by
      rw [List.zipIdx_map_snd]
      exact List.nodup_range' _
    exact perm.nodup_iff.2 (indices.of_map.filter _)
  have ordered : SortedBy lt (StdSort.sort lt members) := StdSort.sorted weak
  have split := List.take_append_drop (members.length - maxHistory) (StdSort.sort lt members)
  rw [← split] at ordered distinct
  have isMember : (a, front.length) ∈ members := by simp [members, here]
  have positive := List.length_pos_of_mem isMember
  have last : (StdSort.sort lt members).drop (members.length - maxHistory) ≠ [] := by
    rw [Ne, List.drop_eq_nil_iff, perm.length_eq]
    omega
  obtain ⟨⟨b, i⟩, kept⟩ := List.exists_mem_of_ne_nil _ last
  have notLess := (List.pairwise_append.1 ordered).2.2 old dropped (b, i) kept
  have differ := (List.nodup_append.1 distinct).2.2 old dropped (b, i) kept
  have known := perm.subset (List.mem_of_mem_drop kept)
  have knownOld := perm.subset (List.mem_of_mem_take dropped)
  simp only [members, List.mem_filter, List.mem_zipIdx_iff_getElem?, decide_eq_true_eq] at known knownOld
  have isOld : old.1 = a := by
    have found := knownOld.1
    rw [same] at found
    simpa using found.symm
  have other : i ≠ front.length := by
    rintro rfl
    refine differ (Prod.ext ?_ same)
    rw [isOld]
    simpa using known.1
  have less := newest b (mem_append_of_index_ne known.1 other) known.2
  simp only [lt, decide_eq_false_iff_not, isOld] at notLess
  exact notLess less

end Superseded

/-- A later claim of the same source incarnation covers the same attribute of the same module
incarnation (source `claim_is_superseded`). -/
def claimIsSuperseded (claims : List IdentityClaim) (candidate : IdentityClaim) : Bool :=
  claims.any fun other =>
    other.source = candidate.source ∧ other.sourceEpoch = candidate.sourceEpoch ∧
    other.field = candidate.field ∧ other.subkey = candidate.subkey ∧
    other.incarnation = candidate.incarnation ∧ candidate.sequence < other.sequence

/-- The history group of a claim (source `trim_claims`, the key of `grouped`). -/
def claimGroup (claim : IdentityClaim) : IdentityField × Bytes × SourceId × SourceEpoch :=
  (claim.field, claim.subkey, claim.source, claim.sourceEpoch)

/-- Bound the claims of a module (source `trim_claims`). -/
def trimClaims [StdSort] (claims : List IdentityClaim) (maxTotal maxHistory : UInt32) :
    Result (List IdentityClaim) := do
  let kept ← eraseSuperseded claimIsSuperseded maxTotal.toNat
    (makeError .capacityExceeded "module identity claim budget is exhausted") claims.length claims
  .ok (dropExcess claimGroup (·.sequence) maxHistory.toNat kept)

/-- A later declaration of the same source incarnation covers the same attribute of the same module
incarnation (source `declaration_is_superseded`). -/
def declarationIsSuperseded (declarations : List CapabilityDeclaration)
    (candidate : CapabilityDeclaration) : Bool :=
  declarations.any fun other =>
    other.source = candidate.source ∧ other.sourceEpoch = candidate.sourceEpoch ∧
    other.key = candidate.key ∧ other.subkey = candidate.subkey ∧
    other.module = candidate.module ∧ other.incarnation = candidate.incarnation ∧
    candidate.sequence < other.sequence

/-- The history group of a declaration (source `trim_declarations`, the key of `grouped`). -/
def declarationGroup (declaration : CapabilityDeclaration) :
    CapabilityKey × Bytes × SourceId × SourceEpoch :=
  (declaration.key, declaration.subkey, declaration.source, declaration.sourceEpoch)

/-- Bound the declarations of a module (source `trim_declarations(ModuleRecord&, ...)`). -/
def trimDeclarations [StdSort] (declarations : List CapabilityDeclaration)
    (maxTotal maxHistory : UInt32) : Result (List CapabilityDeclaration) := do
  let kept ← eraseSuperseded declarationIsSuperseded maxTotal.toNat
    (makeError .capacityExceeded "module capability declaration budget is exhausted")
    declarations.length declarations
  .ok (dropExcess declarationGroup (·.sequence) maxHistory.toNat kept)

section Sublist

variable [StdSort] {maxTotal maxHistory : UInt32}

/-- Trimming only removes claims (source `trim_claims`). -/
lemma trimClaims_sublist {claims kept : List IdentityClaim}
    (trim : trimClaims claims maxTotal maxHistory = .ok kept) : kept.Sublist claims := by
  rw [trimClaims, bind_eq_ok] at trim
  obtain ⟨erased, erase, e⟩ := trim
  cases e
  exact (dropExcess_sublist _ _ _ _).trans (eraseSuperseded_sublist erase)

/-- Trimming only removes declarations (source `trim_declarations`). -/
lemma trimDeclarations_sublist {declarations kept : List CapabilityDeclaration}
    (trim : trimDeclarations declarations maxTotal maxHistory = .ok kept) :
    kept.Sublist declarations := by
  rw [trimDeclarations, bind_eq_ok] at trim
  obtain ⟨erased, erase, e⟩ := trim
  cases e
  exact (dropExcess_sublist _ _ _ _).trans (eraseSuperseded_sublist erase)

/-- A trim that keeps no history drops every declaration (source `trim_declarations`). -/
lemma trimDeclarations_none {declarations kept : List CapabilityDeclaration} (none : maxHistory = 0)
    (trim : trimDeclarations declarations maxTotal maxHistory = .ok kept) : kept = [] := by
  rw [trimDeclarations, bind_eq_ok] at trim
  obtain ⟨erased, _, e⟩ := trim
  cases e
  rw [none]
  exact dropExcess_zero _ _ _

end Sublist

/-- A later declaration of the same source incarnation covers the same attribute of the port
(source `trim_declarations(std::vector<CapabilityDeclaration>&, ...)`, the inner loops). -/
def portDeclarationIsSuperseded (declarations : List CapabilityDeclaration)
    (candidate : CapabilityDeclaration) : Bool :=
  declarations.any fun other =>
    other.source = candidate.source ∧ other.sourceEpoch = candidate.sourceEpoch ∧
    other.key = candidate.key ∧ other.subkey = candidate.subkey ∧
    candidate.sequence < other.sequence

/-- Bound the declarations of a port; the history bound is not used
(source `trim_declarations(std::vector<CapabilityDeclaration>&, ...)`). -/
def trimPortDeclarations (declarations : List CapabilityDeclaration) (maxTotal : UInt32) :
    Result (List CapabilityDeclaration) :=
  eraseSuperseded portDeclarationIsSuperseded maxTotal.toNat
    (makeError .capacityExceeded "port capability declaration budget is exhausted")
    declarations.length declarations

/-- Samples, their counts by series and the number of samples dropped so far. -/
structure SampleTrim where
  samples : List HealthSample
  seriesCounts : Std.ExtTreeMap SeriesKey UInt32 compareSeries
  droppedSamples : UInt64

/-- The sample belongs to the series (source `trim_samples`, the comparison in the loop). -/
def HealthSample.inSeries (sample : HealthSample) (series : SeriesKey) : Bool :=
  seriesKey sample.metric sample.lane = series

/-- Drop the oldest samples of one series until its count meets the bound (source `trim_samples`,
the loop over one entry). -/
def trimSeries (limit : UInt32) (series : SeriesKey) : (count : Nat) → SampleTrim → SampleTrim
  | 0, trim => trim
  | count + 1, trim =>
    if limit.toNat < count + 1 ∧ trim.samples.any (·.inSeries series) then
      trimSeries limit series count {
        samples := trim.samples.eraseP (·.inSeries series)
        seriesCounts := trim.seriesCounts.insert series (UInt32.ofNat count)
        droppedSamples := trim.droppedSamples + 1 }
    else trim

/-- Bound the samples of a module, by series and in total (source `trim_samples`). -/
def trimSamples (config : RegistryConfig) (trim : SampleTrim) : SampleTrim :=
  let bySeries := trim.seriesCounts.toList.foldl (fun acc entry =>
    trimSeries config.maxSamplesPerSeries entry.1 entry.2.toNat acc) trim
  let excess := bySeries.samples.length - config.maxSamplesPerModule.toNat
  { bySeries with
    samples := bySeries.samples.drop excess
    droppedSamples := bySeries.droppedSamples + UInt64.ofNat excess }

/-- Trimming one series only removes samples. -/
lemma trimSeries_sublist (limit : UInt32) (series : SeriesKey) (count : Nat) (trim : SampleTrim) :
    (trimSeries limit series count trim).samples.Sublist trim.samples := by
  induction count generalizing trim with
  | zero => exact List.Sublist.refl _
  | succ count ih =>
    unfold trimSeries
    split
    · exact (ih _).trans List.eraseP_sublist
    · exact List.Sublist.refl _

/-- Trimming several series only removes samples (source `trim_samples`, the first loop). -/
lemma trimSeries_foldl_sublist (limit : UInt32) (entries : List (SeriesKey × UInt32))
    (trim : SampleTrim) :
    (entries.foldl (fun acc entry => trimSeries limit entry.1 entry.2.toNat acc)
      trim).samples.Sublist trim.samples := by
  induction entries generalizing trim with
  | nil => exact List.Sublist.refl _
  | cons entry rest ih => exact (ih _).trans (trimSeries_sublist _ _ _ _)

/-- Trimming only removes samples (source `trim_samples`). -/
lemma trimSamples_sublist (config : RegistryConfig) (trim : SampleTrim) :
    (trimSamples config trim).samples.Sublist trim.samples :=
  (List.drop_sublist _ _).trans (trimSeries_foldl_sublist _ _ _)

/-- The newest entries of a bounded history (source the loops that erase `begin()`). -/
def trimLifecycle (config : RegistryConfig) (events : List LifecycleEvent) : List LifecycleEvent :=
  events.drop (events.length - config.maxLifecycleHistory.toNat)

end TransceiverRegistry

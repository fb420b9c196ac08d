import Mathlib.Data.List.Sort
import Mathlib.Data.List.Destutter
import Mathlib.Order.Compare
import Mathlib.Tactic.Common

/-!
# Sorting with a comparator

The unstable sort of a standard library leaves the order of equivalent elements open, so it is a
parameter: `StdSort` is any function that permutes its input and, when the comparator is a strict
weak order on the elements, leaves no element before a smaller one. The stable sort is Mathlib's
insertion sort, and the removal of adjacent duplicates is Mathlib's `List.destutter`.
-/

namespace Lib

variable {α : Type}

/-- The comparator is a strict weak order on the elements of the list. -/
structure StrictWeakOn (lt : α → α → Bool) (l : List α) : Prop where
  asymm : ∀ a ∈ l, ∀ b ∈ l, lt a b = true → lt b a = false
  trans : ∀ a ∈ l, ∀ b ∈ l, ∀ c ∈ l, lt b a = false → lt c b = false → lt c a = false

/-- The comparator is a strict weak order on any two lists of the same elements. -/
lemma StrictWeakOn.of_subset {lt : α → α → Bool} {l l' : List α} (h : StrictWeakOn lt l)
    (sub : l' ⊆ l) : StrictWeakOn lt l' where
  asymm a ha b hb := h.asymm a (sub ha) b (sub hb)
  trans a ha b hb c hc := h.trans a (sub ha) b (sub hb) c (sub hc)

/-- A comparator that compares ranks in a linear order is a strict weak order. -/
lemma strictWeakOn_rank {κ : Type} [LinearOrder κ] {lt : α → α → Bool} (rank : α → κ)
    (h : ∀ a b, lt a b = true ↔ rank a < rank b) (l : List α) : StrictWeakOn lt l where
  asymm a _ b _ ab := by
    rw [← Bool.not_eq_true, h]
    exact ((h a b).1 ab).asymm
  trans a _ b _ c _ ab bc := by
    rw [← Bool.not_eq_true, h, not_lt] at *
    exact ab.trans bc

/-- A comparator that compares keys is a strict weak order. -/
lemma strictWeakOn_compare {κ : Type} (cmp : κ → κ → Ordering) [Std.TransCmp cmp] (key : α → κ)
    (l : List α) : StrictWeakOn (fun a b => (cmp (key a) (key b)).isLT) l where
  asymm a _ b _ ab := by
    rw [Ordering.isLT_iff_eq_lt] at ab
    rw [@Std.OrientedCmp.eq_swap _ cmp, ab]
    rfl
  trans a _ b _ c _ ab bc := by
    rw [← Bool.not_eq_true, Ordering.isLT_iff_eq_lt, ← Ordering.isGE_iff_ne_lt] at *
    exact Std.TransCmp.isGE_trans bc ab

/-- A lexicographic comparison is decided by the first component that differs. -/
lemma compare_then_isLT {κ : Type} [LinearOrder κ] (a b : κ) (o : Ordering) :
    ((compare a b).then o).isLT = if a ≠ b then decide (a < b) else o.isLT := by
  rcases lt_trichotomy a b with h | h | h
  · simp [compare_lt_iff_lt.2 h, h, h.ne]
  · simp [h]
  · simp [compare_gt_iff_gt.2 h, h.not_gt, h.ne']

/-- No element stands before a smaller one. -/
def SortedBy (lt : α → α → Bool) (l : List α) : Prop :=
  l.Pairwise fun a b => lt b a = false

/-- Inserting into a sorted list keeps it sorted. -/
lemma SortedBy.orderedInsert {lt : α → α → Bool} {a : α} {l : List α}
    (weak : StrictWeakOn lt (a :: l)) (sorted : SortedBy lt l) :
    SortedBy lt (l.orderedInsert (fun x y => lt y x = false) a) := by
  induction l with
  | nil => simp [SortedBy]
  | cons b l ih =>
    have sorted' := List.pairwise_cons.1 sorted
    rw [List.orderedInsert_cons]
    split
    · rename_i ab
      refine List.pairwise_cons.2 ⟨fun c hc => ?_, sorted⟩
      rcases List.mem_cons.1 hc with rfl | hc
      · exact ab
      · exact weak.trans a (by simp) b (by simp) c (by simp [hc]) ab (sorted'.1 c hc)
    · rename_i ab
      have ba : lt a b = false :=
        weak.asymm b (by simp) a (by simp) (by simpa using ab)
      have sub : a :: l ⊆ a :: b :: l := by
        intro x hx
        rcases List.mem_cons.1 hx with rfl | hx <;> simp [*]
      refine List.pairwise_cons.2 ⟨fun c hc => ?_, ih (weak.of_subset sub) sorted'.2⟩
      rcases (List.mem_orderedInsert _).1 hc with rfl | hc
      · exact ba
      · exact sorted'.1 c hc

/-- The stable sort by a comparator. -/
def stableSort (lt : α → α → Bool) (l : List α) : List α :=
  l.insertionSort fun x y => lt y x = false

/-- The stable sort permutes its input. -/
lemma stableSort_perm (lt : α → α → Bool) (l : List α) : (stableSort lt l).Perm l :=
  List.perm_insertionSort _ l

/-- The stable sort leaves no element before a smaller one. -/
lemma stableSort_sorted {lt : α → α → Bool} {l : List α} (weak : StrictWeakOn lt l) :
    SortedBy lt (stableSort lt l) := by
  induction l with
  | nil => exact List.Pairwise.nil
  | cons a l ih =>
    have perm : (stableSort lt l).Perm l := stableSort_perm lt l
    refine SortedBy.orderedInsert (weak.of_subset ?_)
      (ih (weak.of_subset (List.subset_cons_self a l)))
    exact (perm.cons a).subset

/-- A sort that may order equivalent elements as it likes. -/
class StdSort where
  sort {α : Type} (lt : α → α → Bool) (l : List α) : List α
  perm {α : Type} (lt : α → α → Bool) (l : List α) : (sort lt l).Perm l
  sorted {α : Type} {lt : α → α → Bool} {l : List α} :
    StrictWeakOn lt l → SortedBy lt (sort lt l)

/-- The stable sort is one of the allowed sorts. -/
instance (priority := low) : StdSort where
  sort := stableSort
  perm := stableSort_perm
  sorted := stableSort_sorted

/-- A list in strict order comes out of every sort as it is. -/
lemma StdSort.sort_eq_self [StdSort] {lt : α → α → Bool} {l : List α} (weak : StrictWeakOn lt l)
    (strict : l.Pairwise fun a b => lt a b = true) : StdSort.sort lt l = l := by
  have perm := StdSort.perm lt l
  have sorted : SortedBy lt l :=
    strict.imp_of_mem fun {a b} ha hb h => weak.asymm a ha b hb h
  refine perm.eq_of_pairwise ?_ (StdSort.sorted weak) sorted
  intro a b ha hb hab hba
  by_contra ne
  have symm : Std.Symm fun x y => lt x y = true ∨ lt y x = true := ⟨fun _ _ => Or.symm⟩
  have either : l.Pairwise fun x y => lt x y = true ∨ lt y x = true := strict.imp Or.inl
  rcases either.forall (perm.subset ha) hb ne with h | h
  · rw [h] at hba; cases hba
  · rw [h] at hab; cases hab

/-- Two lists with the same elements come out of a sort the same when no two of them are
equivalent. -/
lemma StdSort.sort_congr [StdSort] {lt : α → α → Bool} {l l' : List α} (weak : StrictWeakOn lt l)
    (perm : l.Perm l')
    (total : ∀ a ∈ l, ∀ b ∈ l, lt a b = false → lt b a = false → a = b) :
    StdSort.sort lt l = StdSort.sort lt l' := by
  have perm₁ := StdSort.perm lt l
  have perm₂ := (StdSort.perm lt l').trans perm.symm
  refine (perm₁.trans perm₂.symm).eq_of_pairwise ?_ (StdSort.sorted weak)
    (StdSort.sorted (weak.of_subset perm.symm.subset))
  intro a b ha hb hab hba
  exact total a (perm₁.subset ha) b (perm₂.subset hb) hba hab

/-- Two lists with the same elements come out of the stable sort the same when no two of them are
equivalent. -/
lemma stableSort_congr {lt : α → α → Bool} {l l' : List α} (weak : StrictWeakOn lt l)
    (perm : l.Perm l')
    (total : ∀ a ∈ l, ∀ b ∈ l, lt a b = false → lt b a = false → a = b) :
    stableSort lt l = stableSort lt l' :=
  StdSort.sort_congr weak perm total

/-- In a sorted list, what is strictly above a predecessor is strictly above all of it. -/
lemma SortedBy.strict_of_chain {lt : α → α → Bool} {l : List α} (weak : StrictWeakOn lt l)
    (sorted : SortedBy lt l) (chain : l.IsChain fun a b => lt a b = true) :
    l.Pairwise fun a b => lt a b = true := by
  induction l with
  | nil => exact List.Pairwise.nil
  | cons a l ih =>
    have sorted' := List.pairwise_cons.1 sorted
    refine List.pairwise_cons.2 ⟨fun c hc => ?_,
      ih (weak.of_subset (List.subset_cons_self a l)) sorted'.2 chain.tail⟩
    cases l with
    | nil => cases hc
    | cons b l =>
      have ab : lt a b = true := (List.isChain_cons_cons.1 chain).1
      rcases List.mem_cons.1 hc with rfl | hc
      · exact ab
      · by_contra ac
        have bc : lt c b = false := (List.pairwise_cons.1 sorted'.2).1 c hc
        have := weak.trans b (by simp) c (by simp [hc]) a (by simp) bc (by simpa using ac)
        rw [ab] at this
        cases this

/-- Removing adjacent duplicates from a sorted list leaves it in strict order. -/
lemma SortedBy.destutter {lt eq : α → α → Bool} {l : List α} (weak : StrictWeakOn lt l)
    (sorted : SortedBy lt l)
    (either : ∀ a ∈ l, ∀ b ∈ l, lt b a = false → eq a b = false → lt a b = true) :
    (l.destutter fun a b => eq a b = false).Pairwise fun a b => lt a b = true := by
  have sub := l.destutter_sublist fun a b => eq a b = false
  have sorted' : SortedBy lt (l.destutter fun a b => eq a b = false) := sorted.sublist sub
  refine SortedBy.strict_of_chain (weak.of_subset sub.subset) sorted' ?_
  have chain := (l.isChain_destutter fun a b => eq a b = false)
  have chain' := sorted'.isChain
  rw [List.isChain_iff_getElem] at chain chain' ⊢
  intro i hi
  exact either _ (sub.subset (List.getElem_mem _)) _ (sub.subset (List.getElem_mem _))
    (chain' i hi) (chain i hi)

/-- Sort and drop the repetitions. -/
def sortUnique [StdSort] (lt eq : α → α → Bool) (l : List α) : List α :=
  (StdSort.sort lt l).destutter fun a b => eq a b = false

/-- Sorting and dropping repetitions gives a strict order. -/
lemma sortUnique_strict [StdSort] {lt eq : α → α → Bool} {l : List α} (weak : StrictWeakOn lt l)
    (either : ∀ a ∈ l, ∀ b ∈ l, lt b a = false → eq a b = false → lt a b = true) :
    (sortUnique lt eq l).Pairwise fun a b => lt a b = true := by
  have perm := StdSort.perm lt l
  exact SortedBy.destutter (weak.of_subset perm.subset) (StdSort.sorted weak)
    fun a ha b hb => either a (perm.subset ha) b (perm.subset hb)

/-- What is dropped was related to an element that stays. -/
lemma mem_destutter'_or {R : α → α → Prop} [DecidableRel R] {x : α} (l : List α) (a : α)
    (hx : x ∈ a :: l) : x ∈ l.destutter' R a ∨ ∃ y ∈ l.destutter' R a, ¬ R y x := by
  induction l generalizing a with
  | nil => exact .inl (by simpa using hx)
  | cons b l ih =>
    rw [List.destutter'_cons]
    split
    · rcases List.mem_cons.1 hx with rfl | hx
      · exact .inl (by simp)
      · rcases ih b hx with h | ⟨y, hy, h⟩
        · exact .inl (List.mem_cons_of_mem _ h)
        · exact .inr ⟨y, List.mem_cons_of_mem _ hy, h⟩
    · rename_i ab
      rcases List.mem_cons.1 hx with rfl | hx
      · exact ih x (by simp)
      · rcases List.mem_cons.1 hx with rfl | hx
        · exact .inr ⟨a, l.mem_destutter' R a, ab⟩
        · exact ih a (List.mem_cons_of_mem _ hx)

/-- Every element stays or equals an element that stays. -/
lemma mem_sortUnique_or [StdSort] {lt eq : α → α → Bool} {l : List α} {x : α} (hx : x ∈ l) :
    x ∈ sortUnique lt eq l ∨ ∃ y ∈ sortUnique lt eq l, eq y x = true := by
  unfold sortUnique
  have hx := (StdSort.perm lt l).symm.subset hx
  cases h : StdSort.sort lt l with
  | nil => rw [h] at hx; cases hx
  | cons a l =>
    rw [h] at hx
    simpa [List.destutter_cons'] using mem_destutter'_or (R := fun a b => eq a b = false) l a hx

/-- A list in strict order has nothing to sort or to drop. -/
lemma sortUnique_eq_self [StdSort] {lt eq : α → α → Bool} {l : List α} (weak : StrictWeakOn lt l)
    (strict : l.Pairwise fun a b => lt a b = true)
    (differ : ∀ a ∈ l, ∀ b ∈ l, lt a b = true → eq a b = false) : sortUnique lt eq l = l := by
  unfold sortUnique
  rw [StdSort.sort_eq_self weak strict]
  refine List.destutter_of_isChain _ l (List.Pairwise.isChain ?_)
  exact strict.imp_of_mem fun ha hb h => differ _ ha _ hb h

end Lib

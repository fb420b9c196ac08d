import Mathlib.Data.List.Rotate
import TransceiverRegistry.Lib.Sort

/-!
# Lists that every sort keeps

The sort of a standard library may leave tied elements in any order. A list comes out of every such
sort as it is exactly when it is sorted and all tied elements are equal: the sort that rotates the
list before a stable sort brings any element in front of those that are tied with it.
-/

namespace Lib

variable {α : Type} {lt : α → α → Bool} {a b : α} {l : List α}

/-- Neither of two elements is before the other one. -/
def tied (lt : α → α → Bool) (a b : α) : Bool := !lt a b && !lt b a

lemma tied_iff : tied lt a b = true ↔ lt a b = false ∧ lt b a = false := by
  rw [tied, Bool.and_eq_true, Bool.not_eq_true', Bool.not_eq_true']

/-- Ties are symmetric. -/
lemma tied_comm : tied lt a b = tied lt b a := Bool.and_comm _ _

/-- Ties are transitive on the elements of a list. -/
lemma StrictWeakOn.tied_trans (weak : StrictWeakOn lt l) {c : α} (inA : a ∈ l) (inB : b ∈ l)
    (inC : c ∈ l) (ab : tied lt a b = true) (bc : tied lt b c = true) : tied lt a c = true := by
  rw [tied_iff] at *
  exact ⟨weak.trans c inC b inB a inA bc.1 ab.1, weak.trans a inA b inB c inC ab.2 bc.2⟩

/-- A stable sort keeps the order of the elements that are tied with one of them. -/
lemma filter_stableSort (weak : StrictWeakOn lt l) (member : a ∈ l) :
    (stableSort lt l).filter (tied lt a) = l.filter (tied lt a) := by
  have level : (l.filter (tied lt a)).Pairwise fun x y => lt y x = false := by
    refine List.pairwise_of_forall_mem_list fun x inX y inY => ?_
    obtain ⟨inX, ax⟩ := List.mem_filter.1 inX
    obtain ⟨inY, ay⟩ := List.mem_filter.1 inY
    rw [tied_comm] at ax
    exact (tied_iff.1 (weak.tied_trans inX member inY ax ay)).2
  have kept : (l.filter (tied lt a)).Sublist (stableSort lt l) := by
    refine List.sublist_insertionSort ?_ List.filter_sublist
    exact level.imp fun {x y} h => by simpa using h
  have inside := kept.filter (tied lt a)
  rw [List.filter_filter] at inside
  simp only [Bool.and_self] at inside
  have count := ((stableSort_perm lt l).filter (tied lt a)).length_eq
  exact (inside.eq_of_length count.symm).symm

/-- The sort that rotates a list and then sorts it stably. -/
@[reducible] def rotatingSort (n : Nat) : StdSort where
  sort lt l := stableSort lt (l.rotate n)
  perm lt l := (stableSort_perm lt _).trans (List.rotate_perm l n)
  sorted {_ _ l} weak := stableSort_sorted (weak.of_subset (List.rotate_perm l n).subset)

/-- An element of a list that every sort keeps is the first of those that are tied with it. -/
lemma head?_tied (weak : StrictWeakOn lt l) (kept : ∀ s : StdSort, s.sort lt l = l)
    (member : b ∈ l) : (l.filter (tied lt b)).head? = some b := by
  obtain ⟨front, back, rfl⟩ := List.append_of_mem member
  have rotated : (front ++ b :: back).rotate front.length = b :: back ++ front :=
    List.rotate_append_length_eq front (b :: back)
  have perm := List.rotate_perm (front ++ b :: back) front.length
  have self : tied lt b b = true := by
    have irrefl : lt b b = false := by
      cases same : lt b b with
      | false => rfl
      | true => exact same.symm.trans (weak.asymm b member b member same)
    exact tied_iff.2 ⟨irrefl, irrefl⟩
  have sorted := congrArg (List.filter (tied lt b)) (kept (rotatingSort front.length))
  have stable := filter_stableSort (weak.of_subset perm.subset) (perm.mem_iff.2 member)
  have same : (front ++ b :: back).filter (tied lt b) =
      ((front ++ b :: back).rotate front.length).filter (tied lt b) := sorted.symm.trans stable
  rw [same, rotated, List.cons_append, List.filter_cons_of_pos self, List.head?_cons]

/-- A list comes out of every sort as it is exactly when it is sorted and tied elements are equal.
-/
theorem sort_eq_self_iff (weak : StrictWeakOn lt l) : (∀ s : StdSort, s.sort lt l = l) ↔
    SortedBy lt l ∧ ∀ a ∈ l, ∀ b ∈ l, tied lt a b = true → a = b := by
  constructor
  · intro kept
    refine ⟨?_, fun a inA b inB same => ?_⟩
    · rw [← kept inferInstance]
      exact StdSort.sorted weak
    · have row : l.filter (tied lt a) = l.filter (tied lt b) := by
        refine List.filter_congr fun x inX => Bool.eq_iff_iff.2 ⟨fun ax => ?_, fun bx => ?_⟩
        · rw [tied_comm] at same
          exact weak.tied_trans inB inA inX same ax
        · exact weak.tied_trans inA inB inX same bx
      have first := head?_tied weak kept inA
      rw [row, head?_tied weak kept inB] at first
      exact (Option.some.inj first).symm
  · rintro ⟨sorted, equal⟩ s
    have perm := s.perm lt l
    refine perm.eq_of_pairwise ?_ (s.sorted weak) sorted
    intro a b inA inB notAfter notBefore
    exact equal a (perm.subset inA) b inB (tied_iff.2 ⟨notBefore, notAfter⟩)

end Lib

import Mathlib.Logic.Function.Basic
import TransceiverRegistry.Lib.Ties

/-!
# Lists of members in key order

A list of members with a key each stands for the map in which the first member of a key counts. Of
all lists for a map one is in strict key order: it is what a stable sort by the keys leaves when of
each run of equal keys the first one is kept, and putting a member at its place keeps it in order.
The place of a key is found by halving.
-/

namespace Lib

section Search

variable {α : Type} {p : α → Bool}

/-- The number of elements with a property, found by halving when they stand before all others. -/
def partitionPoint (p : α → Bool) (l : List α) : Nat :=
  match parts : l.drop (l.length / 2) with
  | [] => 0
  | middle :: behind =>
    if p middle then l.length / 2 + 1 + partitionPoint p behind
    else partitionPoint p (l.take (l.length / 2))
termination_by l.length
decreasing_by
  all_goals
    have length := congrArg List.length parts
    rw [List.length_drop, List.length_cons] at length
  · omega
  · rw [List.length_take]
    omega

/-- Halving finds where the elements with a property end. -/
theorem partitionPoint_eq {l : List α} (front : l.Pairwise fun a b => p b = true → p a = true) :
    partitionPoint p l = (l.takeWhile p).length := by
  fun_induction partitionPoint p l with
  | case1 l parts =>
    have length := congrArg List.length parts
    rw [List.length_drop, List.length_nil] at length
    rw [List.eq_nil_of_length_eq_zero (l := l) (by omega)]
    rfl
  | case2 l middle behind parts holds ih =>
    have whole : l.take (l.length / 2) ++ middle :: behind = l := by
      rw [← parts, List.take_append_drop]
    have length := congrArg List.length whole
    rw [List.length_append, List.length_cons] at length
    rw [← whole] at front
    obtain ⟨-, behindFront, across⟩ := List.pairwise_append.1 front
    have before : ∀ a ∈ l.take (l.length / 2), p a = true := fun a member =>
      across a member middle List.mem_cons_self holds
    rw [ih (List.pairwise_cons.1 behindFront).2]
    conv_rhs => rw [← whole]
    rw [List.takeWhile_append_of_pos before, List.takeWhile_cons_of_pos holds, List.length_append,
      List.length_cons, List.length_take_of_le (Nat.div_le_self _ _)]
    omega
  | case3 l middle behind parts fails ih =>
    have whole : l.take (l.length / 2) ++ middle :: behind = l := by
      rw [← parts, List.take_append_drop]
    rw [ih (front.sublist (List.take_sublist _ _))]
    conv_rhs => rw [← whole]
    rw [List.takeWhile_append]
    split
    · rename_i all
      rw [all, List.takeWhile_cons_of_neg fails, List.append_nil]
    · rfl

/-- What stands behind the place found by halving. -/
lemma drop_partitionPoint {l : List α} (front : l.Pairwise fun a b => p b = true → p a = true) :
    l.drop (partitionPoint p l) = l.dropWhile p := by
  have whole : l.takeWhile p ++ l.dropWhile p = l := List.takeWhile_append_dropWhile
  rw [partitionPoint_eq front]
  calc l.drop (l.takeWhile p).length
      = (l.takeWhile p ++ l.dropWhile p).drop (l.takeWhile p).length := by rw [whole]
    _ = l.dropWhile p := List.drop_left

end Search

section Members

variable {κ α : Type} {cmp : κ → κ → Ordering} [Std.TransCmp cmp] [Std.LawfulEqCmp cmp]
  {key key' : κ} {value : α} {l l' : List (κ × α)}

/-- A key that is neither below another one nor equal to it is above it. -/
lemma isLT_of_not_isLT (notBelow : ¬ (cmp key key').isLT = true) (differ : key ≠ key') :
    (cmp key' key).isLT = true := by
  rw [@Std.OrientedCmp.eq_swap _ cmp]
  cases order : cmp key key' with
  | lt => exact absurd (Ordering.isLT_iff_eq_lt.2 order) notBelow
  | eq => exact absurd (Std.LawfulEqCmp.eq_of_compare order) differ
  | gt => rfl

/-- The keys are in strict order. -/
def Ascending (cmp : κ → κ → Ordering) (l : List (κ × α)) : Prop :=
  l.Pairwise fun a b => (cmp a.1 b.1).isLT = true

/-- Replace the member of a key, or add one at its place. -/
def put (cmp : κ → κ → Ordering) (key : κ) (value : α) (l : List (κ × α)) : List (κ × α) :=
  l.takeWhile (fun m => (cmp m.1 key).isLT) ++ (key, value) ::
    match l.dropWhile fun m => (cmp m.1 key).isLT with
    | [] => []
    | m :: behind => if cmp m.1 key = .eq then behind else m :: behind

omit [Std.TransCmp cmp] [Std.LawfulEqCmp cmp] in
/-- A member is put in front of the first one whose key is not below. -/
lemma put_cons {m : κ × α} : put cmp key value (m :: l) =
    if (cmp m.1 key).isLT then m :: put cmp key value l
    else (key, value) :: if cmp m.1 key = .eq then l else m :: l := by
  rw [put, List.takeWhile_cons, List.dropWhile_cons]
  split
  · rfl
  · rfl

omit [Std.TransCmp cmp] [Std.LawfulEqCmp cmp] in
/-- Putting a member adds no other one. -/
lemma mem_put {n : κ × α} (member : n ∈ put cmp key value l) : n = (key, value) ∨ n ∈ l := by
  induction l with
  | nil => exact .inl (List.mem_singleton.1 member)
  | cons m l ih =>
    rw [put_cons] at member
    split at member
    · rcases List.mem_cons.1 member with rfl | member
      · exact .inr List.mem_cons_self
      · exact (ih member).imp id (List.mem_cons_of_mem m)
    · rcases List.mem_cons.1 member with rfl | member
      · exact .inl rfl
      · split at member
        · exact .inr (List.mem_cons_of_mem m member)
        · exact .inr member

/-- Putting a member keeps the keys in order. -/
lemma Ascending.put (ascending : Ascending cmp l) : Ascending cmp (put cmp key value l) := by
  induction l with
  | nil => exact List.pairwise_singleton _ _
  | cons m l ih =>
    obtain ⟨above, rest⟩ := List.pairwise_cons.1 ascending
    rw [put_cons]
    split
    · rename_i below
      refine List.pairwise_cons.2 ⟨fun n member => ?_, ih rest⟩
      rcases mem_put member with rfl | member
      · exact below
      · exact above n member
    · rename_i notBelow
      split
      · rename_i same
        refine List.pairwise_cons.2 ⟨fun n member => ?_, rest⟩
        rw [← Std.LawfulEqCmp.eq_of_compare same]
        exact above n member
      · rename_i differ
        have order : (cmp key m.1).isLT = true := by
          refine isLT_of_not_isLT notBelow fun same => differ ?_
          rw [same, @Std.ReflCmp.compare_self _ cmp]
        refine List.pairwise_cons.2 ⟨fun n member => ?_, ascending⟩
        rcases List.mem_cons.1 member with rfl | member
        · exact order
        · have before := Ordering.isLT_iff_eq_lt.1 order
          have next := Ordering.isLT_iff_eq_lt.1 (above n member)
          exact Ordering.isLT_iff_eq_lt.2 (Std.TransCmp.lt_trans before next)

variable [BEq κ] [LawfulBEq κ]

omit [Std.TransCmp cmp] in
/-- A member is the one of its key when the keys are in order. -/
lemma Ascending.mem_iff (ascending : Ascending cmp l) :
    (key, value) ∈ l ↔ l.lookup key = some value := by
  induction l with
  | nil => simp
  | cons m l ih =>
    obtain ⟨above, rest⟩ := List.pairwise_cons.1 ascending
    rw [List.mem_cons, List.lookup_cons, ih rest]
    cases same : key == m.1 with
    | true =>
      obtain rfl := eq_of_beq same
      have absent (member : l.lookup m.1 = some value) : False := by
        have below := above _ ((ih rest).2 member)
        rw [@Std.ReflCmp.compare_self _ cmp] at below
        cases below
      constructor
      · rintro (equal | member)
        · rw [← equal]
        · exact (absent member).elim
      · intro found
        exact .inl (Prod.ext rfl (Option.some.inj found).symm)
    | false =>
      refine ⟨fun member => member.resolve_left ?_, .inr⟩
      rintro rfl
      exact absurd (beq_self_eq_true key) (Bool.not_eq_true _ ▸ same)

/-- There is one list in order for a map. -/
theorem Ascending.ext (ascending : Ascending cmp l) (ascending' : Ascending cmp l')
    (same : ∀ key, l.lookup key = l'.lookup key) : l = l' := by
  have nodup {l : List (κ × α)} (ascending : Ascending cmp l) : l.Nodup := by
    refine ascending.imp fun {a b} below equal => ?_
    rw [equal, @Std.ReflCmp.compare_self _ cmp] at below
    cases below
  have perm : l.Perm l' := by
    refine (List.perm_ext_iff_of_nodup (nodup ascending) (nodup ascending')).2 fun m => ?_
    rw [ascending.mem_iff, ascending'.mem_iff, same]
  refine perm.eq_of_pairwise (fun a b _ _ before after => ?_) ascending ascending'
  rw [@Std.OrientedCmp.eq_swap _ cmp, Ordering.isLT_iff_eq_lt.1 before] at after
  cases after

omit [Std.TransCmp cmp] in
/-- A member that is put is found under its key. -/
theorem lookup_put [DecidableEq κ] : (fun key' => (put cmp key value l).lookup key') =
    Function.update (fun key' => l.lookup key') key (some value) := by
  funext key'
  rw [Function.update_apply]
  induction l with
  | nil =>
    show List.lookup key' ((key, value) :: []) = _
    rw [List.lookup_cons]
    by_cases same : key' = key
    · rw [if_pos same, same, beq_self_eq_true]
    · rw [if_neg same, beq_eq_false_iff_ne.2 same]
  | cons m l ih =>
    rw [put_cons]
    split
    · rename_i below
      rw [List.lookup_cons, List.lookup_cons, ih]
      cases same : key' == m.1 with
      | true =>
        have differ : key' ≠ key := by
          rintro rfl
          rw [eq_of_beq same, @Std.ReflCmp.compare_self _ cmp] at below
          cases below
        exact (if_neg differ).symm
      | false => rfl
    · rw [List.lookup_cons]
      by_cases same : key' = key
      · rw [if_pos same, same, beq_self_eq_true]
      · rw [if_neg same, beq_eq_false_iff_ne.2 same]
        show List.lookup key' (if cmp m.1 key = .eq then l else m :: l) = _
        split
        · rename_i equal
          rw [List.lookup_cons, Std.LawfulEqCmp.eq_of_compare equal, beq_eq_false_iff_ne.2 same]
        · rfl

/-- In a list in order, the member of a key is the first one whose key is not below it. -/
lemma Ascending.lookup_eq (ascending : Ascending cmp l) :
    l.lookup key = match l.dropWhile fun m => (cmp m.1 key).isLT with
      | [] => none
      | m :: _ => if cmp m.1 key = .eq then some m.2 else none := by
  induction l with
  | nil => rfl
  | cons m l ih =>
    obtain ⟨above, rest⟩ := List.pairwise_cons.1 ascending
    rw [List.lookup_cons, List.dropWhile_cons]
    cases order : cmp m.1 key with
    | lt =>
      have differ : key ≠ m.1 := by
        rintro rfl
        rw [@Std.ReflCmp.compare_self _ cmp] at order
        cases order
      rw [beq_eq_false_iff_ne.2 differ]
      exact ih rest
    | eq =>
      rw [Std.LawfulEqCmp.eq_of_compare order, beq_self_eq_true]
      exact (if_pos order).symm
    | gt =>
      have before : cmp key m.1 = .lt := by
        rw [@Std.OrientedCmp.eq_swap _ cmp, order]
        rfl
      have absent (n : κ × α) (member : n ∈ m :: l) : (key == n.1) = false := by
        refine beq_eq_false_iff_ne.2 ?_
        rintro rfl
        rcases List.mem_cons.1 member with rfl | member
        · rw [@Std.ReflCmp.compare_self _ cmp] at before
          cases before
        · have next := Std.TransCmp.lt_trans before (Ordering.isLT_iff_eq_lt.1 (above n member))
          rw [@Std.ReflCmp.compare_self _ cmp] at next
          cases next
      rw [absent m List.mem_cons_self]
      have ne : cmp m.1 key ≠ .eq := by simp [order]
      refine Eq.trans ?_ (if_neg ne).symm
      exact List.lookup_eq_none_iff.2 fun n member => by
        rw [bne, absent n (List.mem_cons_of_mem m member)]
        rfl

omit [LawfulBEq κ] in
/-- Dropping a member behind one with the same key keeps the first member of each key. -/
lemma lookup_destutter [DecidableEq κ] :
    (l.destutter fun a b => a.1 ≠ b.1).lookup key = l.lookup key := by
  have behind (l : List (κ × α)) (m : κ × α) :
      (l.destutter' (fun a b => a.1 ≠ b.1) m).lookup key = (m :: l).lookup key := by
    induction l generalizing m with
    | nil => rfl
    | cons n l ih =>
      rw [List.destutter'_cons]
      split
      · rw [List.lookup_cons, ih, ← List.lookup_cons]
      · rename_i same
        rw [ih, List.lookup_cons, List.lookup_cons, List.lookup_cons, not_not.1 same]
        cases key == n.1 <;> rfl
  cases l with
  | nil => rfl
  | cons m l => exact behind l m

omit [LawfulBEq κ] in
/-- The first member of a key is the first one of the members of the key. -/
lemma lookup_eq_head? : l.lookup key = ((l.filter fun m => key == m.1).head?).map Prod.snd := by
  induction l with
  | nil => rfl
  | cons m l ih =>
    rw [List.lookup_cons, List.filter_cons]
    cases key == m.1 with
    | true => rfl
    | false => exact ih

/-- Members are tied when they have the same key. -/
lemma tied_keys (a : κ × α) :
    tied (fun a b => (cmp a.1 b.1).isLT) a = fun b : κ × α => a.1 == b.1 := by
  funext b
  rw [Bool.eq_iff_iff, tied_iff, beq_iff_eq]
  constructor
  · rintro ⟨notBefore, notAfter⟩
    by_contra differ
    have after := isLT_of_not_isLT (Bool.not_eq_true _ ▸ notBefore) differ
    exact absurd (after.symm.trans notAfter) (by decide)
  · intro same
    rw [same, @Std.ReflCmp.compare_self _ cmp]
    exact ⟨rfl, rfl⟩

/-- A stable sort by the keys keeps the first member of each key. -/
lemma lookup_stableSort :
    (stableSort (fun a b => (cmp a.1 b.1).isLT) l).lookup key = l.lookup key := by
  by_cases given : ∃ m ∈ l, key = m.1
  · obtain ⟨m, member, rfl⟩ := given
    have kept := filter_stableSort (strictWeakOn_compare cmp Prod.fst l) member
    rw [tied_keys] at kept
    rw [lookup_eq_head?, lookup_eq_head?, kept]
  · have absent (n : κ × α) (member : n ∈ l) : (key != n.1) = true :=
      bne_iff_ne.2 fun same => given ⟨n, member, same⟩
    rw [List.lookup_eq_none_iff.2 absent, List.lookup_eq_none_iff]
    exact fun n member => absent n ((stableSort_perm _ l).subset member)

omit [BEq κ] [LawfulBEq κ] in
/-- Sorting by the keys and dropping every member behind one with the same key leaves the keys in
order. -/
lemma ascending_destutter_stableSort [DecidableEq κ] : Ascending cmp
    ((stableSort (fun a b => (cmp a.1 b.1).isLT) l).destutter fun a b => a.1 ≠ b.1) := by
  have weak (l : List (κ × α)) := strictWeakOn_compare cmp Prod.fst l
  have sorted : SortedBy _ _ := (stableSort_sorted (weak l)).sublist
    (List.destutter_sublist (fun a b : κ × α => a.1 ≠ b.1) _)
  refine sorted.strict_of_chain (weak _) ?_
  have chain := sorted.isChain
  have differ := (stableSort (fun a b => (cmp a.1 b.1).isLT) l).isChain_destutter
    fun a b : κ × α => a.1 ≠ b.1
  rw [List.isChain_iff_getElem] at chain differ ⊢
  intro i inside
  refine isLT_of_not_isLT (fun after => ?_) (differ i inside).symm
  exact absurd (after.symm.trans (chain i inside)) (by decide)

end Members

end Lib

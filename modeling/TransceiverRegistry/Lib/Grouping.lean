import Mathlib.Data.List.Induction
import Mathlib.Data.List.Perm.Basic
import Mathlib.Tactic.Common
import Std.Data.ExtTreeMap

/-!
# Grouping by a key

The elements of a list, collected under their keys in the order of the keys. The group of a key holds
exactly the elements with that key, in the order of the list, and a key without elements has no group.
-/

namespace Lib

variable {α κ β : Type*} {cmp : κ → κ → Ordering} [Std.TransCmp cmp]

/-- Add an element to the group of its key. -/
def addToGroup (key : α → κ) (groups : Std.ExtTreeMap κ (List α) cmp) (a : α) :
    Std.ExtTreeMap κ (List α) cmp :=
  groups.insert (key a) (groups.getD (key a) [] ++ [a])

/-- The groups of a list. -/
def groupBy (cmp : κ → κ → Ordering) [Std.TransCmp cmp] (key : α → κ) (l : List α) :
    Std.ExtTreeMap κ (List α) cmp :=
  l.foldl (addToGroup key) ∅

variable {key : α → κ} {l l' : List α}

/-- The entries are in the order of their keys. -/
lemma pairwise_map_groupBy {f : κ → List α → β} {keyOf : β → κ}
    (own : ∀ k group, keyOf (f k group) = k) :
    ((groupBy cmp key l).toList.map fun group => f group.1 group.2).Pairwise
      fun a b => cmp (keyOf a) (keyOf b) = .lt := by
  rw [List.pairwise_map]
  refine Std.ExtTreeMap.ordered_keys_toList.imp fun {a b} before => ?_
  rw [own, own]
  exact before

variable [Std.LawfulEqCmp cmp] [DecidableEq κ]

/-- The elements with a key. -/
def withKey (key : α → κ) (l : List α) (k : κ) : List α := l.filter fun a => key a = k

/-- The group of a key. -/
lemma getElem?_groupBy (key : α → κ) (l : List α) (k : κ) :
    (groupBy cmp key l)[k]? = if withKey key l k = [] then none else some (withKey key l k) := by
  induction l using List.reverseRecOn with
  | nil => simp [groupBy, withKey]
  | append_singleton l a ih =>
    have last : groupBy cmp key (l ++ [a]) = addToGroup key (groupBy cmp key l) a := by
      rw [groupBy, List.foldl_append]
      rfl
    have before : (groupBy cmp key l).getD k [] = withKey key l k := by
      rw [Std.ExtTreeMap.getD_eq_getD_getElem?, ih]
      split
      · rename_i none
        rw [none]
        rfl
      · rfl
    rw [last, addToGroup, Std.ExtTreeMap.getElem?_insert]
    by_cases same : key a = k
    · rw [if_pos (Std.LawfulEqCmp.compare_eq_iff_eq.2 same), same, before]
      simp [withKey, same]
    · rw [if_neg (fun e => same (Std.LawfulEqCmp.compare_eq_iff_eq.1 e)), ih]
      simp [withKey, same]

/-- An entry is made of the group of a key. -/
lemma mem_map_groupBy {f : κ → List α → β} {b : β} :
    b ∈ (groupBy cmp key l).toList.map (fun group => f group.1 group.2) ↔
      ∃ k, withKey key l k ≠ [] ∧ b = f k (withKey key l k) := by
  simp only [List.mem_map, Prod.exists, Std.ExtTreeMap.mem_toList_iff_getElem?_eq_some,
    getElem?_groupBy]
  constructor
  · rintro ⟨k, group, found, rfl⟩
    split at found
    · cases found
    · rename_i some
      cases found
      exact ⟨k, some, rfl⟩
  · rintro ⟨k, some, rfl⟩
    exact ⟨k, _, if_neg some, rfl⟩

/-- A key has a group when some element has the key. -/
lemma withKey_ne_nil {k : κ} : withKey key l k ≠ [] ↔ ∃ a ∈ l, key a = k := by
  simp [withKey, List.filter_eq_nil_iff]

/-- The entries of two lists with the same keys are the same when the entry of every key is. -/
lemma map_groupBy_congr_keys {f : κ → List α → β}
    (keys : ∀ k, withKey key l k = [] ↔ withKey key l' k = [])
    (same : ∀ k, withKey key l k ≠ [] → f k (withKey key l k) = f k (withKey key l' k)) :
    (groupBy cmp key l).toList.map (fun group => f group.1 group.2) =
      (groupBy cmp key l').toList.map (fun group => f group.1 group.2) := by
  have groups : (groupBy cmp key l).map f = (groupBy cmp key l').map f := by
    ext1 k
    rw [Std.ExtTreeMap.getElem?_map, Std.ExtTreeMap.getElem?_map, getElem?_groupBy,
      getElem?_groupBy]
    by_cases none : withKey key l k = []
    · rw [if_pos none, if_pos ((keys k).1 none)]
    · have some' : withKey key l' k ≠ [] := fun none' => none ((keys k).2 none')
      rw [if_neg none, if_neg some', Option.map_some, Option.map_some, same k none]
  have entries := congrArg (fun groups => groups.toList.map Prod.snd) groups
  simpa only [Std.ExtTreeMap.toList_map, List.map_map, Function.comp_def] using entries

/-- The entries of two lists with the same keys that tell their keys are the same exactly when the entry
of every key is. -/
lemma map_groupBy_eq_iff {f : κ → List α → β}
    (keys : ∀ k, withKey key l k = [] ↔ withKey key l' k = [])
    (own : ∀ k k' group group', f k group = f k' group' → k = k') :
    (groupBy cmp key l).toList.map (fun group => f group.1 group.2) =
        (groupBy cmp key l').toList.map (fun group => f group.1 group.2) ↔
      ∀ k, withKey key l k ≠ [] → f k (withKey key l k) = f k (withKey key l' k) := by
  constructor
  · intro same k some
    have listed : f k (withKey key l k) ∈
        (groupBy cmp key l).toList.map fun group => f group.1 group.2 :=
      mem_map_groupBy.2 ⟨k, some, rfl⟩
    rw [same] at listed
    obtain ⟨k', _, e⟩ := mem_map_groupBy.1 listed
    obtain rfl := own _ _ _ _ e
    exact e
  · exact fun same => map_groupBy_congr_keys keys same

/-- The entries do not depend on the order of the list when none of them does. -/
lemma map_groupBy_congr {f : κ → List α → β} (perm : l.Perm l')
    (same : ∀ k, f k (withKey key l k) = f k (withKey key l' k)) :
    (groupBy cmp key l).toList.map (fun group => f group.1 group.2) =
      (groupBy cmp key l').toList.map (fun group => f group.1 group.2) := by
  refine map_groupBy_congr_keys (fun k => ?_) fun k _ => same k
  have both : (withKey key l k).Perm (withKey key l' k) := perm.filter _
  exact ⟨fun none => (none ▸ both).symm.eq_nil, fun none => (none ▸ both).eq_nil⟩

end Lib

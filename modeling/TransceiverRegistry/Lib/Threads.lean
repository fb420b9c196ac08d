import Mathlib.Data.List.Chain
import Mathlib.Tactic.Common

/-!
# Histories of several threads

A history holds the entries of several threads, one entry after the other. It is threaded when the
entries of each thread follow one another. A history stays threaded when its oldest entries are
dropped, when its newest thread goes on, and when a thread starts. Where the threads stand is a list
with an entry for each of them.
-/

namespace Lib

variable {α κ : Type*} [DecidableEq κ] {key : α → κ} {follows : α → α → Prop} {l l' : List α}
  {a b : α}

/-- The entries of each thread follow one another. -/
def Threaded (key : α → κ) (follows : α → α → Prop) (l : List α) : Prop :=
  ∀ k, (l.filter fun a => key a = k).IsChain follows

/-- The empty history is threaded. -/
lemma Threaded.nil : Threaded key follows [] := fun _ => List.isChain_nil

/-- Dropping the oldest entries keeps a history threaded. -/
lemma Threaded.suffix (h : Threaded key follows l) (newer : l' <:+ l) : Threaded key follows l' :=
  fun k => (h k).suffix (newer.filter _)

/-- The entries of a thread after one more entry. -/
lemma filter_append_singleton (p : α → Bool) :
    (l ++ [b]).filter p = l.filter p ++ if p b then [b] else [] := by
  rw [List.filter_append, List.filter_cons, List.filter_nil]

/-- A thread starts with its first entry. -/
lemma Threaded.begin (h : Threaded key follows l) (first : ∀ a ∈ l, key a ≠ key b) :
    Threaded key follows (l ++ [b]) := by
  intro k
  rw [filter_append_singleton]
  split
  · rename_i own
    have none_yet : l.filter (fun a => key a = k) = [] := by
      rw [List.filter_eq_nil_iff]
      intro a ha same
      exact first a ha ((of_decide_eq_true same).trans (of_decide_eq_true own).symm)
    rw [none_yet]
    exact List.isChain_singleton b
  · rw [List.append_nil]
    exact h k

/-- The newest entry of a history is the newest one of its thread. -/
lemma getLast?_thread (newest : l.getLast? = some a) :
    (l.filter fun b => key b = key a).getLast? = some a := by
  obtain ⟨earlier, rfl⟩ := List.getLast?_eq_some_iff.1 newest
  rw [filter_append_singleton, if_pos (decide_eq_true rfl)]
  exact List.getLast?_concat

/-- The newest thread goes on with an entry that follows the newest one. -/
lemma Threaded.extend (h : Threaded key follows l) (newest : l.getLast? = some a)
    (same : key b = key a) (next : follows a b) : Threaded key follows (l ++ [b]) := by
  intro k
  rw [filter_append_singleton]
  split
  · rename_i own
    obtain rfl : key b = k := of_decide_eq_true own
    refine List.isChain_append.2 ⟨h _, List.isChain_singleton b, fun x hx y hy => ?_⟩
    rw [same, getLast?_thread newest] at hx
    cases hx
    cases hy
    exact next
  · rw [List.append_nil]
    exact h k

/-- The newest entries of a history hold its newest one. -/
lemma getLast?_newest {n : Nat} (some_kept : 0 < n) :
    (l.drop (l.length - n)).getLast? = l.getLast? := by
  rw [List.getLast?_drop]
  split
  · rename_i none_left
    obtain rfl : l = [] := List.eq_nil_of_length_eq_zero (by omega)
    rfl
  · rfl

/-- The entry of a thread in a list of them after that of one thread is replaced. -/
lemma getElem?_set_of_getElem? {β : Type*} {threads : List β} {t u : ℕ} {before after : β}
    (thread : threads[t]? = some before) :
    (threads.set t after)[u]? = if t = u then some after else threads[u]? := by
  obtain ⟨inside, _⟩ := List.getElem?_eq_some_iff.1 thread
  rw [List.getElem?_set]
  simp [inside]

end Lib

import Mathlib.Data.List.Basic
import Mathlib.Tactic.Common

/-!
# Streaks

The last `n` entries of a sequence all meet a condition. A counter that is advanced on every entry
that meets the condition, and set back on every other one, is the length of a streak.
-/

namespace Lib

variable {α : Type*} {p : α → Prop} {n : Nat} {l : List α} {a : α}

/-- The last `n` entries of a list meet a condition. -/
def LastMeet (p : α → Prop) (n : Nat) (l : List α) : Prop :=
  ∃ old recent, l = old ++ recent ∧ recent.length = n ∧ ∀ a ∈ recent, p a

/-- Nothing is asked of no entries. -/
lemma LastMeet.zero : LastMeet p 0 l := ⟨l, [], (List.append_nil l).symm, rfl, by simp⟩

/-- A streak goes on with the next entry. -/
lemma lastMeet_concat : LastMeet p (n + 1) (l ++ [a]) ↔ LastMeet p n l ∧ p a := by
  constructor
  · rintro ⟨old, recent, parts, length, all⟩
    obtain ⟨front, b, rfl⟩ : ∃ front b, recent = front ++ [b] := by
      have ne : recent ≠ [] := fun empty => by simp [empty] at length
      exact ⟨_, _, (List.dropLast_append_getLast ne).symm⟩
    rw [← List.append_assoc] at parts
    obtain ⟨rfl, last⟩ := List.append_inj' parts rfl
    obtain rfl : a = b := by simpa using last
    refine ⟨⟨old, front, rfl, by simpa using length, fun a member => all a ?_⟩, all a ?_⟩
    · exact List.mem_append_left _ member
    · exact List.mem_append_right _ List.mem_cons_self
  · rintro ⟨⟨old, recent, rfl, length, all⟩, last⟩
    refine ⟨old, recent ++ [a], List.append_assoc .., by simp [length], fun b member => ?_⟩
    rcases List.mem_append.1 member with earlier | here
    · exact all b earlier
    · rw [List.mem_singleton.1 here]
      exact last

/-- What a streak says about the entries before the last ones. -/
lemma LastMeet.of_append_replicate {k : Nat} (h : LastMeet p (n + k) (l ++ List.replicate k a)) :
    LastMeet p n l := by
  induction k with
  | zero => simpa using h
  | succ k ih =>
    rw [List.replicate_succ', ← List.append_assoc, ← Nat.add_assoc] at h
    exact ih (lastMeet_concat.1 h).1

/-- A part of a streak is a streak. -/
lemma LastMeet.of_le {m : Nat} (h : LastMeet p n l) (le : m ≤ n) : LastMeet p m l := by
  obtain ⟨old, recent, rfl, rfl, all⟩ := h
  refine ⟨old ++ recent.take (recent.length - m), recent.drop (recent.length - m), ?_, ?_, ?_⟩
  · rw [List.append_assoc, List.take_append_drop]
  · rw [List.length_drop]
    omega
  · exact fun a member => all a (List.mem_of_mem_drop member)

end Lib

import Mathlib.Data.List.Basic

/-!
# Histories

A history is the list of the events of a run, in the order they happened. A law of causes says of each
event what must have happened before it; it is checked when the event happens, and holds ever after.
-/

namespace Lib

variable {ε : Type*} {cause : List ε → ε → Prop} {h before after : List ε} {e : ε}

/-- Every event of a history has its causes before it. -/
def Caused (cause : List ε → ε → Prop) (h : List ε) : Prop :=
  ∀ before e after, h = before ++ e :: after → cause before e

/-- Nothing happened yet. -/
lemma Caused.nil : Caused cause [] := by
  intro before e after same
  cases List.append_ne_nil_of_right_ne_nil before (List.cons_ne_nil e after) same.symm

/-- One more event happens. -/
lemma Caused.concat (caused : Caused cause h) (now : cause h e) : Caused cause (h ++ [e]) := by
  intro before e' after same
  rcases List.eq_nil_or_concat after with rfl | ⟨after, last, rfl⟩
  · obtain ⟨rfl, last⟩ := List.append_inj' same rfl
    cases last
    exact now
  · have split : h ++ [e] = (before ++ e' :: after) ++ [last] := by
      rw [same, List.append_assoc, List.cons_append, List.concat_eq_append]
    exact caused before e' after (List.append_inj' split rfl).1

/-- What happened up to some point of a history. -/
lemma Caused.front (caused : Caused cause (before ++ after)) : Caused cause before := by
  intro front e rest same
  refine caused front e (rest ++ after) ?_
  rw [same, List.append_assoc, List.cons_append]

section Ratchet

variable {σ : Type*} {apply : σ → ε → σ} {less : σ → σ → Prop} {start : σ}

/-- An event leaves the state that the events before it led to as it is, or moves it up. -/
def Ratchet (apply : σ → ε → σ) (less : σ → σ → Prop) (start : σ) (before : List ε) (e : ε) : Prop :=
  apply (before.foldl apply start) e = before.foldl apply start ∨
    less (before.foldl apply start) (apply (before.foldl apply start) e)

/-- When every event leaves the state as it is or moves it up, so do any events one after the other. -/
lemma Caused.foldl_eq_or (caused : Caused (Ratchet apply less start) h)
    (trans : ∀ a b c, less a b → less b c → less a c) (longer : before <+: h) :
    before.foldl apply start = h.foldl apply start ∨
      less (before.foldl apply start) (h.foldl apply start) := by
  obtain ⟨after, rfl⟩ := longer
  induction after generalizing before with
  | nil => exact .inl (by rw [List.append_nil])
  | cons e after ih =>
    have first := caused before e after rfl
    rw [List.append_cons] at caused ⊢
    have later := ih caused
    rw [List.foldl_append (l := before)] at later
    rcases first with same | up
    · rw [← same]
      exact later
    · rcases later with same | higher
      · exact .inr (same ▸ up)
      · exact .inr (trans _ _ _ up higher)

end Ratchet

end Lib

import Mathlib.Order.Lattice

/-!
# Gated moves

A thing is asked to be at a level of a linear order. It goes up to the level when the way up is open
and down to it when the way down is open, and stays where it is otherwise. Whatever ways are open, a
higher level that is asked for never leads to a lower one.
-/

namespace Lib

variable {α : Type*} [LinearOrder α]

/-- The level reached from `current` when `asked` is asked for. -/
def gatedMove (up down : Bool) (current asked : α) : α :=
  if asked = current then current
  else if current < asked then if up then asked else current
  else if down then asked else current

/-- When both ways are open, the level asked for is reached. -/
lemma gatedMove_open (current asked : α) : gatedMove true true current asked = asked := by
  unfold gatedMove
  split
  · rename_i same
    exact same.symm
  · exact ite_self asked

/-- When only the way up is open, the higher of the two levels is reached. -/
lemma gatedMove_up (current asked : α) : gatedMove true false current asked = max current asked := by
  unfold gatedMove
  split
  · rename_i same
    rw [same, max_self]
  · split
    · rename_i above
      exact (max_eq_right above.le).symm
    · rename_i notAbove
      exact (max_eq_left (not_lt.1 notAbove)).symm

/-- When only the way down is open, the lower of the two levels is reached. -/
lemma gatedMove_down (current asked : α) :
    gatedMove false true current asked = min current asked := by
  unfold gatedMove
  split
  · rename_i same
    rw [same, min_self]
  · split
    · rename_i above
      exact (min_eq_left above.le).symm
    · rename_i notAbove
      exact (min_eq_right (not_lt.1 notAbove)).symm

/-- When no way is open, nothing moves. -/
lemma gatedMove_closed (current asked : α) : gatedMove false false current asked = current := by
  unfold gatedMove
  split
  · rfl
  · exact ite_self current

/-- A gated move is monotone in the level that is asked for. -/
lemma gatedMove_mono (up down : Bool) (current : α) {asked asked' : α} (h : asked ≤ asked') :
    gatedMove up down current asked ≤ gatedMove up down current asked' := by
  cases up with
  | true =>
    cases down with
    | true =>
      rw [gatedMove_open, gatedMove_open]
      exact h
    | false =>
      rw [gatedMove_up, gatedMove_up]
      exact sup_le_sup_left h current
  | false =>
    cases down with
    | true =>
      rw [gatedMove_down, gatedMove_down]
      exact inf_le_inf_left current h
    | false =>
      rw [gatedMove_closed, gatedMove_closed]

end Lib

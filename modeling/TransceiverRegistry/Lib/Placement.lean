import Mathlib.Logic.Function.Basic
import Mathlib.Tactic.Common

/-!
# Placing units into slots

Units are placed into slots. A unit goes through incarnations and has a life state; a slot is held
by a unit incarnation or is free. The moves write one slot, free the slots of one unit, or write the
life of one unit. Three properties of a placement are followed through the moves: no unit holds two
slots, a slot is held by a current incarnation, and a unit whose life says that it is placed holds a
slot.
-/

namespace Lib

/-- Who holds each slot, and the incarnation and the life of each unit. -/
structure Placement (Slot Uid Inc Life : Type*) where
  holder : Slot → Option (Uid × Inc)
  life : Uid → Option (Inc × Life)

namespace Placement

variable {Slot Uid Inc Life : Type*} [DecidableEq Slot] [DecidableEq Uid]
  {p : Placement Slot Uid Inc Life} {slot : Slot} {uid : Uid} {inc : Inc} {life : Life}
  {placed : Life → Prop}

/-- Put a unit into a slot, whoever holds it. -/
def occupy (p : Placement Slot Uid Inc Life) (slot : Slot) (uid : Uid) (inc : Inc) :
    Placement Slot Uid Inc Life :=
  { p with holder := Function.update p.holder slot (some (uid, inc)) }

/-- Free a slot. -/
def vacate (p : Placement Slot Uid Inc Life) (slot : Slot) : Placement Slot Uid Inc Life :=
  { p with holder := Function.update p.holder slot none }

/-- Free every slot of a unit. -/
def evict (p : Placement Slot Uid Inc Life) (uid : Uid) : Placement Slot Uid Inc Life :=
  { p with holder := fun slot => (p.holder slot).filter fun x => x.1 ≠ uid }

/-- Set the incarnation and the life of a unit. -/
def become (p : Placement Slot Uid Inc Life) (uid : Uid) (inc : Inc) (life : Life) :
    Placement Slot Uid Inc Life :=
  { p with life := Function.update p.life uid (some (inc, life)) }

/-- No unit holds two slots. -/
def AtMostOne (p : Placement Slot Uid Inc Life) : Prop :=
  ∀ a b x y, p.holder a = some x → p.holder b = some y → x.1 = y.1 → a = b

/-- Every slot is held by a unit in its current incarnation. -/
def Current (p : Placement Slot Uid Inc Life) : Prop :=
  ∀ slot uid inc, p.holder slot = some (uid, inc) → ∃ life, p.life uid = some (inc, life)

/-- Every unit that is placed by its life holds a slot in its current incarnation. -/
def Held (placed : Life → Prop) (p : Placement Slot Uid Inc Life) : Prop :=
  ∀ uid inc life, p.life uid = some (inc, life) → placed life →
    ∃ slot, p.holder slot = some (uid, inc)

omit [DecidableEq Uid] in
/-- The holder of a slot after an occupation. -/
lemma occupy_holder_eq_some {a : Slot} {x : Uid × Inc} :
    (p.occupy slot uid inc).holder a = some x ↔
      (a = slot ∧ x = (uid, inc)) ∨ (a ≠ slot ∧ p.holder a = some x) := by
  unfold occupy
  by_cases here : a = slot
  · subst here
    simp [Function.update_self, eq_comm]
  · simp [here]

omit [DecidableEq Uid] in
/-- The holder of a slot after a slot is freed. -/
lemma vacate_holder_eq_some {a : Slot} {x : Uid × Inc} :
    (p.vacate slot).holder a = some x ↔ a ≠ slot ∧ p.holder a = some x := by
  unfold vacate
  by_cases here : a = slot
  · subst here
    simp [Function.update_self]
  · simp [here]

omit [DecidableEq Slot] in
/-- The holder of a slot after a unit is evicted. -/
lemma evict_holder_eq_some {a : Slot} {x : Uid × Inc} :
    (p.evict uid).holder a = some x ↔ p.holder a = some x ∧ x.1 ≠ uid := by
  simp [evict, Option.filter_eq_some_iff]

omit [DecidableEq Slot] in
/-- The life of a unit after a change. -/
lemma become_life_eq_some {u : Uid} {x : Inc × Life} :
    (p.become uid inc life).life u = some x ↔
      (u = uid ∧ x = (inc, life)) ∨ (u ≠ uid ∧ p.life u = some x) := by
  unfold become
  by_cases here : u = uid
  · subst here
    simp [Function.update_self, eq_comm]
  · simp [here]

omit [DecidableEq Uid] in
/-- A unit that holds no other slot can be put into a slot. -/
lemma AtMostOne.occupy (h : AtMostOne p)
    (sole : ∀ a x, p.holder a = some x → x.1 = uid → a = slot) :
    AtMostOne (p.occupy slot uid inc) := by
  intro a b x y heldA heldB same
  obtain ⟨rfl, rfl⟩ | ⟨_, ha⟩ := occupy_holder_eq_some.1 heldA <;>
    obtain ⟨rfl, rfl⟩ | ⟨_, hb⟩ := occupy_holder_eq_some.1 heldB
  · rfl
  · exact (sole b y hb same.symm).symm
  · exact sole a x ha same
  · exact h a b x y ha hb same

omit [DecidableEq Uid] in
/-- Freeing a slot gives no unit a second one. -/
lemma AtMostOne.vacate (h : AtMostOne p) : AtMostOne (p.vacate slot) :=
  fun a b x y ha hb same =>
    h a b x y (vacate_holder_eq_some.1 ha).2 (vacate_holder_eq_some.1 hb).2 same

omit [DecidableEq Slot] in
/-- Evicting a unit gives no unit a second slot. -/
lemma AtMostOne.evict (h : AtMostOne p) : AtMostOne (p.evict uid) :=
  fun a b x y ha hb same =>
    h a b x y (evict_holder_eq_some.1 ha).1 (evict_holder_eq_some.1 hb).1 same

omit [DecidableEq Slot] in
/-- The lives do not matter for the slots of a unit. -/
lemma AtMostOne.become (h : AtMostOne p) : AtMostOne (p.become uid inc life) := h

omit [DecidableEq Uid] in
/-- A current incarnation can be put into a slot. -/
lemma Current.occupy (h : Current p) (current : p.life uid = some (inc, life)) :
    Current (p.occupy slot uid inc) := by
  intro a u i held
  obtain ⟨rfl, e⟩ | ⟨_, held⟩ := occupy_holder_eq_some.1 held
  · cases e
    exact ⟨life, current⟩
  · exact h a u i held

omit [DecidableEq Uid] in
/-- Freeing a slot leaves the others to current incarnations. -/
lemma Current.vacate (h : Current p) : Current (p.vacate slot) :=
  fun a u i held => h a u i (vacate_holder_eq_some.1 held).2

omit [DecidableEq Slot] in
/-- A unit can change its life, and its incarnation too when it holds no slot. -/
lemma Current.become (h : Current p)
    (same : ∀ a i, p.holder a = some (uid, i) → i = inc) : Current (p.become uid inc life) := by
  intro a u i held
  by_cases here : u = uid
  · subst here
    obtain rfl := same a i held
    exact ⟨life, become_life_eq_some.2 (.inl ⟨rfl, rfl⟩)⟩
  · obtain ⟨l, known⟩ := h a u i held
    exact ⟨l, become_life_eq_some.2 (.inr ⟨here, known⟩)⟩

omit [DecidableEq Slot] in
/-- A unit that is evicted can start an incarnation. -/
lemma Current.renew (h : Current p) : Current ((p.evict uid).become uid inc life) := by
  refine Current.become (fun a u i held => ?_) fun a i held => ?_
  · exact h a u i (evict_holder_eq_some.1 held).1
  · exact absurd rfl (evict_holder_eq_some.1 held).2

/-- A unit can be put into a slot and become placed, when the unit it displaces is not placed or
holds another slot. -/
lemma Held.occupy (h : Held placed p)
    (spare : ∀ u i l, p.holder slot = some (u, i) → u ≠ uid → p.life u = some (i, l) → placed l →
      ∃ a ≠ slot, p.holder a = some (u, i)) :
    Held placed ((p.occupy slot uid inc).become uid inc life) := by
  intro u i l known isPlaced
  obtain ⟨rfl, e⟩ | ⟨other, known⟩ := become_life_eq_some.1 known
  · cases e
    exact ⟨slot, occupy_holder_eq_some.2 (.inl ⟨rfl, rfl⟩)⟩
  · obtain ⟨a, held⟩ := h u i l known isPlaced
    by_cases here : a = slot
    · subst here
      obtain ⟨b, elsewhere, held⟩ := spare u i l held other known isPlaced
      exact ⟨b, occupy_holder_eq_some.2 (.inr ⟨elsewhere, held⟩)⟩
    · exact ⟨a, occupy_holder_eq_some.2 (.inr ⟨here, held⟩)⟩

omit [DecidableEq Uid] in
/-- A slot can be freed when its holder is not placed. -/
lemma Held.vacate (h : Held placed p)
    (spare : ∀ u i l, p.holder slot = some (u, i) → p.life u = some (i, l) → ¬ placed l) :
    Held placed (p.vacate slot) := by
  intro u i l known isPlaced
  obtain ⟨a, held⟩ := h u i l known isPlaced
  refine ⟨a, vacate_holder_eq_some.2 ⟨?_, held⟩⟩
  rintro rfl
  exact spare u i l held known isPlaced

/-- A slot can be freed when its holder is not placed any more. -/
lemma Held.remove (h : Held placed p) (holds : p.holder slot = some (uid, inc))
    (removed : ¬ placed life) : Held placed ((p.vacate slot).become uid inc life) := by
  intro u i l known isPlaced
  obtain ⟨_, e⟩ | ⟨other, known⟩ := become_life_eq_some.1 known
  · cases e
    exact absurd isPlaced removed
  · obtain ⟨a, held⟩ := h u i l known isPlaced
    refine ⟨a, vacate_holder_eq_some.2 ⟨?_, held⟩⟩
    rintro rfl
    rw [holds] at held
    cases held
    exact other rfl

omit [DecidableEq Slot] in
/-- A unit can change its life, when it holds a slot if it becomes placed. -/
lemma Held.become (h : Held placed p)
    (holds : placed life → ∃ a, p.holder a = some (uid, inc)) :
    Held placed (p.become uid inc life) := by
  intro u i l known isPlaced
  obtain ⟨rfl, e⟩ | ⟨_, known⟩ := become_life_eq_some.1 known
  · cases e
    exact holds isPlaced
  · exact h u i l known isPlaced

omit [DecidableEq Slot] in
/-- A unit can be evicted and become unplaced. -/
lemma Held.renew (h : Held placed p) (unplaced : ¬ placed life) :
    Held placed ((p.evict uid).become uid inc life) := by
  intro u i l known isPlaced
  obtain ⟨_, e⟩ | ⟨other, known⟩ := become_life_eq_some.1 known
  · cases e
    exact absurd isPlaced unplaced
  · obtain ⟨a, held⟩ := h u i l known isPlaced
    exact ⟨a, evict_holder_eq_some.2 ⟨held, other⟩⟩

end Placement

end Lib

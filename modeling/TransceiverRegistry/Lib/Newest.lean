import Mathlib.Data.List.Induction
import Mathlib.Order.Lattice
import Mathlib.Tactic.Common

/-!
# The newest entry of a log

Of the entries of a log that satisfy a predicate, the newest one is the one with the greatest time,
and of several with that time the last one. The search goes through the log once; what it finds is
characterised by its place in the log, and it does not see entries that fail the predicate.
-/

namespace Lib

variable {α β τ : Type*} [LinearOrder τ]

/-- Take one more entry into account. -/
def newer (p : α → Bool) (time : α → τ) (best : Option α) (a : α) : Option α :=
  if p a = false then best
  else match best with
    | none => some a
    | some b => if time b ≤ time a then some a else some b

/-- The newest entry with a property. -/
def newest (p : α → Bool) (time : α → τ) (l : List α) : Option α := l.foldl (newer p time) none

/-- The entry is at a place in the log where nothing before is later and nothing after is as late. -/
structure IsNewest (p : α → Bool) (time : α → τ) (l : List α) (a : α) : Prop where
  holds : p a = true
  place : ∃ front back, l = front ++ a :: back ∧ (∀ b ∈ front, p b = true → time b ≤ time a) ∧
    ∀ b ∈ back, p b = true → time b < time a

variable {p q : α → Bool} {time : α → τ} {l : List α} {a b : α}

/-- The newest entry of a longer log. -/
lemma newest_concat : newest p time (l ++ [a]) = newer p time (newest p time l) a := by
  rw [newest, List.foldl_append]
  rfl

/-- An entry without the property changes nothing. -/
lemma newer_of_not (h : p a = false) (best : Option α) : newer p time best a = best := if_pos h

/-- The newest entry is in the log. -/
lemma IsNewest.mem (h : IsNewest p time l a) : a ∈ l := by
  obtain ⟨_, front, back, parts, _⟩ := h
  simp [parts]

/-- No entry with the property is later than the newest one. -/
lemma IsNewest.le (h : IsNewest p time l a) (member : b ∈ l) (holds : p b = true) :
    time b ≤ time a := by
  obtain ⟨_, front, back, parts, before, after⟩ := h
  rw [parts, List.mem_append, List.mem_cons] at member
  obtain early | rfl | late := member
  · exact before b early holds
  · exact le_rfl
  · exact (after b late holds).le

/-- There is one newest entry. -/
lemma IsNewest.unique (h : IsNewest p time l a) (h' : IsNewest p time l b) : a = b := by
  obtain ⟨holdsA, front, back, parts, before, after⟩ := h
  obtain ⟨holdsB, front', back', parts', before', after'⟩ := h'
  rw [parts] at parts'
  obtain ⟨mid, rfl, rest⟩ | ⟨mid, rfl, rest⟩ := List.append_eq_append_iff.1 parts'
  · cases mid with
    | nil => exact (List.cons.inj rest).1
    | cons c mid =>
      obtain ⟨rfl, rfl⟩ := List.cons.inj rest
      have le := before' a (by simp) holdsA
      have lt := after b (by simp) holdsB
      exact absurd lt (not_lt.2 le)
  · cases mid with
    | nil => exact (List.cons.inj rest).1.symm
    | cons c mid =>
      obtain ⟨rfl, rfl⟩ := List.cons.inj rest
      have le := before b (by simp) holdsB
      have lt := after' a (by simp) holdsA
      exact absurd lt (not_lt.2 le)

/-- A log of one more entry, when the entry is not the newest one. -/
lemma IsNewest.concat (h : IsNewest p time l b) (older : p a = true → time a < time b) :
    IsNewest p time (l ++ [a]) b := by
  obtain ⟨holds, front, back, rfl, before, after⟩ := h
  refine ⟨holds, front, back ++ [a], by simp, before, fun c member holdsC => ?_⟩
  obtain early | late := List.mem_append.1 member
  · exact after c early holdsC
  · obtain rfl := List.mem_singleton.1 late
    exact older holdsC

/-- The search finds the newest entry, or there is none with the property. -/
lemma newest_spec (p : α → Bool) (time : α → τ) (l : List α) :
    (newest p time l = none ∧ ∀ a ∈ l, p a = false) ∨
    ∃ a, newest p time l = some a ∧ IsNewest p time l a := by
  induction l using List.reverseRecOn with
  | nil => exact .inl ⟨rfl, by simp⟩
  | append_singleton l x ih =>
    rw [newest_concat]
    cases px : p x with
    | false =>
      rw [newer_of_not px]
      refine ih.imp ?_ ?_
      · rintro ⟨none, all⟩
        refine ⟨none, fun a member => ?_⟩
        obtain early | late := List.mem_append.1 member
        · exact all a early
        · exact List.mem_singleton.1 late ▸ px
      · rintro ⟨a, found, newest⟩
        exact ⟨a, found, newest.concat (by simp [px])⟩
    | true =>
      obtain ⟨none, all⟩ | ⟨b, found, newest⟩ := ih
      · refine .inr ⟨x, by simp [newer, px, none], px, l, [], rfl, ?_, by simp⟩
        intro b member holds
        rw [all b member] at holds
        cases holds
      · by_cases le : time b ≤ time x
        · refine .inr ⟨x, by simp [newer, px, found, le], px, l, [], rfl, ?_, by simp⟩
          exact fun c member holds => (newest.le member holds).trans le
        · exact .inr ⟨b, by simp [newer, px, found, le], newest.concat fun _ => not_le.1 le⟩

/-- What the search finds. -/
lemma newest_eq_some_iff : newest p time l = some a ↔ IsNewest p time l a := by
  constructor
  · intro found
    obtain ⟨none, _⟩ | ⟨b, found', isNewest⟩ := newest_spec p time l
    · rw [none] at found
      cases found
    · obtain rfl := Option.some.inj (found.symm.trans found')
      exact isNewest
  · intro isNewest
    obtain ⟨_, all⟩ | ⟨b, found, isNewest'⟩ := newest_spec p time l
    · have := all a isNewest.mem
      rw [isNewest.holds] at this
      cases this
    · rw [isNewest.unique isNewest', found]

/-- A log of one more entry has the same newest entry when the new one is older than another. -/
lemma newest_concat_of_older (older : p a = true → ∃ b ∈ l, p b = true ∧ time a < time b) :
    newest p time (l ++ [a]) = newest p time l := by
  rw [newest_concat]
  cases holds : p a with
  | false => exact newer_of_not holds _
  | true =>
    obtain ⟨b, member, holdsB, less⟩ := older holds
    obtain ⟨_, all⟩ | ⟨c, found, isNewest⟩ := newest_spec p time l
    · rw [all b member] at holdsB
      cases holdsB
    · have later := less.trans_le (isNewest.le member holdsB)
      simp only [newer, holds, found, Bool.true_eq_false, if_false, if_neg (not_le.2 later)]

/-- The newest entry of a part of a log. -/
lemma newest_filter : newest p time (l.filter q) = newest (fun a => q a && p a) time l := by
  rw [newest, List.foldl_filter, newest]
  congr 1
  funext best a
  cases h : q a <;> simp [newer, h]

/-- The newest entry of a rewritten log. -/
lemma newest_map {f : β → α} {l : List β} :
    newest p time (l.map f) = (newest (fun b => p (f b)) (fun b => time (f b)) l).map f := by
  have fold (best : Option β) : (l.map f).foldl (newer p time) (best.map f) =
      (l.foldl (newer (fun b => p (f b)) fun b => time (f b)) best).map f := by
    induction l generalizing best with
    | nil => rfl
    | cons b rest ih =>
      have step : newer p time (best.map f) (f b) =
          (newer (fun b => p (f b)) (fun b => time (f b)) best b).map f := by
        unfold newer
        cases best with
        | none => split <;> rfl
        | some c =>
          simp only [Option.map_some]
          split <;> [rfl; (split <;> rfl)]
      rw [List.map_cons, List.foldl_cons, step, ih, List.foldl_cons]
  exact fold none

/-- Take one more entry into account, where of several with one time the first one counts. -/
def newerFirst (p : α → Bool) (time : α → τ) (best : Option α) (a : α) : Option α :=
  if p a = false then best
  else match best with
    | none => some a
    | some b => if time b < time a then some a else some b

/-- An entry that comes before counts as one that comes after where the first one counts. -/
lemma newer_newerFirst (best : Option α) :
    newer p time (newerFirst p time best a) b = newerFirst p time (newer p time best b) a := by
  cases holdsA : p a with
  | false => simp [newerFirst, holdsA]
  | true =>
    cases holdsB : p b with
    | false => simp [newer, holdsB]
    | true =>
      simp only [newer, newerFirst, holdsA, holdsB, Bool.true_eq_false, if_false]
      cases best <;> grind

/-- The newest entry of a log with an entry before. -/
lemma newest_cons : newest p time (a :: l) = newerFirst p time (newest p time l) a := by
  induction l using List.reverseRecOn with
  | nil => rfl
  | append_singleton l b ih =>
    rw [← List.cons_append, newest_concat, ih, newest_concat, newer_newerFirst]

/-- A search where of several entries with one time the first one counts finds the newest entry of
the log in reverse. -/
lemma foldl_newerFirst : l.foldl (newerFirst p time) none = newest p time l.reverse := by
  induction l using List.reverseRecOn with
  | nil => rfl
  | append_singleton l a ih =>
    rw [List.foldl_append, ih, List.reverse_append, List.reverse_singleton, List.singleton_append,
      newest_cons]
    rfl

end Lib

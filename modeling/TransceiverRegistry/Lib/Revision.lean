import Mathlib.Data.List.Induction
import Mathlib.Data.List.Perm.Basic
import Mathlib.Order.Lattice
import Mathlib.Tactic.Common

/-!
# Revisions

The elements of a list are taken in the order of their times. Each takes the place of the earlier one
of its author, and what it replaces is dropped. Nothing is lost, and of every author the newest
element stays.
-/

namespace Lib

variable {α κ τ : Type*} [LinearOrder τ] {p : α → Bool} {a old : α} {l kept dropped : List α}
  {author : α → κ} {time : α → τ}

/-- The elements that stay: one of each author, and none older than another of its author. -/
structure Current (author : α → κ) (time : α → τ) (l kept : List α) : Prop where
  authors : kept.Pairwise fun a b => author a ≠ author b
  mem_iff : ∀ a, a ∈ kept ↔ a ∈ l ∧ ∀ b ∈ l, author b = author a → time b ≤ time a

/-- An element with a new author stays beside the others. -/
lemma Current.concat (current : Current author time l kept)
    (later : ∀ b ∈ l, time b < time a) (fresh : ∀ b ∈ kept, author b ≠ author a) :
    Current author time (l ++ [a]) (kept ++ [a]) where
  authors := by
    refine List.pairwise_append.2 ⟨current.authors, List.pairwise_singleton _ _, ?_⟩
    intro b member c last
    obtain rfl := List.mem_singleton.1 last
    exact fresh b member
  mem_iff x := by
    rw [List.mem_append, List.mem_append, List.mem_singleton, current.mem_iff]
    constructor
    · rintro (⟨member, newest⟩ | rfl)
      · refine ⟨.inl member, fun b within same => ?_⟩
        obtain within | last := List.mem_append.1 within
        · exact newest b within same
        · obtain rfl := List.mem_singleton.1 last
          exact absurd same.symm (fresh x ((current.mem_iff x).2 ⟨member, newest⟩))
      · refine ⟨.inr rfl, fun b within _ => ?_⟩
        obtain within | last := List.mem_append.1 within
        · exact (later b within).le
        · rw [List.mem_singleton.1 last]
    · rintro ⟨member | rfl, newest⟩
      · exact .inl ⟨member, fun b within => newest b (List.mem_append_left _ within)⟩
      · exact .inr rfl

/-- An element takes the place of the one of its author. -/
lemma Current.replace {front back : List α} (current : Current author time l (front ++ old :: back))
    (later : ∀ b ∈ l, time b < time a) (same : author old = author a) :
    Current author time (l ++ [a]) (front ++ a :: back) where
  authors := by
    obtain ⟨inFront, behind, apart⟩ := List.pairwise_append.1 current.authors
    obtain ⟨first, inBack⟩ := List.pairwise_cons.1 behind
    refine List.pairwise_append.2 ⟨inFront, List.pairwise_cons.2 ⟨?_, inBack⟩, ?_⟩
    · rw [← same]
      exact first
    · intro b member c within
      cases within with
      | head => exact same ▸ apart b member old (List.mem_cons_self ..)
      | tail _ within => exact apart b member c (List.mem_cons_of_mem _ within)
  mem_iff x := by
    have others : ∀ b ∈ front ++ back, author b ≠ author a := by
      have pulled := (List.perm_middle.pairwise_iff fun h => h.symm).1 current.authors
      rw [← same]
      exact fun b member => ((List.pairwise_cons.1 pulled).1 b member).symm
    have member : x ∈ front ++ a :: back ↔ x = a ∨ x ∈ front ++ back := by
      rw [List.perm_middle.mem_iff, List.mem_cons]
    have member' : x ∈ front ++ old :: back ↔ x = old ∨ x ∈ front ++ back := by
      rw [List.perm_middle.mem_iff, List.mem_cons]
    rw [member]
    constructor
    · rintro (rfl | stays)
      · refine ⟨by simp, fun b within _ => ?_⟩
        obtain within | last := List.mem_append.1 within
        · exact (later b within).le
        · rw [List.mem_singleton.1 last]
      · obtain ⟨within, newest⟩ := (current.mem_iff x).1 (member'.2 (.inr stays))
        refine ⟨List.mem_append_left _ within, fun b listed equal => ?_⟩
        obtain listed | last := List.mem_append.1 listed
        · exact newest b listed equal
        · rw [List.mem_singleton.1 last] at equal
          exact absurd equal.symm (others x stays)
    · rintro ⟨listed, newest⟩
      obtain listed | last := List.mem_append.1 listed
      · have stays := (current.mem_iff x).2
          ⟨listed, fun b within => newest b (List.mem_append_left _ within)⟩
        obtain rfl | stays := member'.1 stays
        -- the replaced element is older than the new one of its author
        · exact absurd (newest a (by simp) same.symm) (not_le.2 (later x listed))
        · exact .inr stays
      · exact .inl (List.mem_singleton.1 last)

variable [DecidableEq κ]

/-- Put an element in the place of the first one with a property, and tell the one it replaced. -/
def replaceFirst (p : α → Bool) (a : α) : List α → Option (α × List α)
  | [] => none
  | b :: l => if p b then some (b, a :: l) else (replaceFirst p a l).map fun r => (r.1, b :: r.2)

/-- Take one more element into account. -/
def revise (author : α → κ) (acc : List α × List α) (a : α) : List α × List α :=
  match replaceFirst (fun b => author b = author a) a acc.1 with
  | none => (acc.1 ++ [a], acc.2)
  | some (old, kept) => (kept, acc.2 ++ [old])

/-- What stays of a list, and what is dropped beside what was dropped before. -/
def newestPerAuthor (author : α → κ) (dropped l : List α) : List α × List α :=
  l.foldl (revise author) ([], dropped)

/-- Nothing is replaced when no element has the property. -/
lemma replaceFirst_eq_none (h : replaceFirst p a l = none) : ∀ b ∈ l, p b = false := by
  induction l with
  | nil => intro b member; cases member
  | cons c l ih =>
    rw [replaceFirst] at h
    split at h
    · cases h
    · rename_i other
      intro b member
      cases member with
      | head => exact Bool.eq_false_iff.2 other
      | tail _ member => exact ih (Option.map_eq_none_iff.1 h) b member

/-- The place where an element is replaced. -/
lemma replaceFirst_eq_some (h : replaceFirst p a l = some (old, kept)) :
    p old = true ∧ ∃ front back, l = front ++ old :: back ∧ kept = front ++ a :: back := by
  induction l generalizing kept with
  | nil => cases h
  | cons c l ih =>
    rw [replaceFirst] at h
    split at h
    · rename_i holds
      cases h
      exact ⟨holds, [], l, rfl, rfl⟩
    · obtain ⟨⟨old', kept'⟩, inner, same⟩ := Option.map_eq_some_iff.1 h
      cases same
      obtain ⟨holds, front, back, rfl, rfl⟩ := ih inner
      exact ⟨holds, c :: front, back, rfl, rfl⟩

/-- The revisions of a longer list. -/
lemma newestPerAuthor_concat : newestPerAuthor author dropped (l ++ [a]) =
    revise author (newestPerAuthor author dropped l) a := by
  rw [newestPerAuthor, List.foldl_append]
  rfl

/-- Nothing is revised when every element has an author of its own. -/
lemma newestPerAuthor_of_apart (apart : l.Pairwise fun a b => author a ≠ author b)
    (dropped : List α) : newestPerAuthor author dropped l = (l, dropped) := by
  induction l using List.reverseRecOn with
  | nil => rfl
  | append_singleton l a ih =>
    obtain ⟨before, -, last⟩ := List.pairwise_append.1 apart
    rw [newestPerAuthor_concat, ih before, revise]
    split
    · rfl
    · rename_i old kept found
      obtain ⟨same, front, back, rfl, -⟩ := replaceFirst_eq_some found
      exact absurd (of_decide_eq_true same) (last old (by simp) a (by simp))

/-- What stays does not depend on what was dropped before. -/
lemma newestPerAuthor_kept (author : α → κ) (dropped dropped' l : List α) :
    (newestPerAuthor author dropped l).1 = (newestPerAuthor author dropped' l).1 := by
  induction l using List.reverseRecOn with
  | nil => rfl
  | append_singleton l a ih =>
    rw [newestPerAuthor_concat, newestPerAuthor_concat, revise, revise, ih]
    split <;> rfl

/-- No element is lost and none is made. -/
lemma newestPerAuthor_perm (author : α → κ) (dropped l : List α) :
    ((newestPerAuthor author dropped l).1 ++ (newestPerAuthor author dropped l).2).Perm
      (l ++ dropped) := by
  induction l using List.reverseRecOn with
  | nil => exact .refl _
  | append_singleton l a ih =>
    have whole : (a :: ((newestPerAuthor author dropped l).1 ++
        (newestPerAuthor author dropped l).2)).Perm (l ++ [a] ++ dropped) := by
      rw [List.append_assoc]
      exact (ih.cons a).trans List.perm_middle.symm
    refine .trans ?_ whole
    rw [newestPerAuthor_concat, revise]
    split
    · rw [List.append_assoc]
      exact List.perm_middle
    · rename_i old kept found
      obtain ⟨-, front, back, parts, rfl⟩ := replaceFirst_eq_some found
      rw [parts, List.append_assoc, List.append_assoc]
      refine List.perm_middle.trans (.cons a (.append_left front ?_))
      change (back ++ ((newestPerAuthor author dropped l).2 ++ [old])).Perm _
      rw [← List.append_assoc]
      exact List.perm_append_singleton old _

/-- In the order of the times, the newest element of every author stays. -/
lemma newestPerAuthor_current (dropped : List α)
    (ascending : l.Pairwise fun a b => time a < time b) :
    Current author time l (newestPerAuthor author dropped l).1 := by
  induction l using List.reverseRecOn with
  | nil => exact ⟨.nil, by simp [newestPerAuthor]⟩
  | append_singleton l a ih =>
    obtain ⟨before, -, apart⟩ := List.pairwise_append.1 ascending
    have current := ih before
    have later : ∀ b ∈ l, time b < time a := fun b member => apart b member a (by simp)
    rw [newestPerAuthor_concat, revise]
    split
    · rename_i without
      refine current.concat later fun b member => ?_
      exact of_decide_eq_false (replaceFirst_eq_none without b member)
    · rename_i old kept found
      obtain ⟨same, front, back, parts, rfl⟩ := replaceFirst_eq_some found
      exact (parts ▸ current).replace later (of_decide_eq_true same)

end Lib

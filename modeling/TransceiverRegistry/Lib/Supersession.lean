import Mathlib.Data.List.Basic
import Mathlib.Tactic.Common

/-!
# Entries covered by other entries

A history in which an entry may cover another one, as a revision covers what it revises. Covering is
irreflexive and transitive, so erasing a covered entry uncovers no other entry: what covered the
erased one covers all it covered.
-/

namespace Lib

variable {α : Type*}

/-- Covering is irreflexive and transitive. -/
structure Covering (covers : α → α → Bool) : Prop where
  irrefl : ∀ a, covers a a = false
  trans : ∀ a b c, covers a b = true → covers b c = true → covers a c = true

/-- Some entry of the list covers this one. -/
def isCovered (covers : α → α → Bool) (l : List α) (a : α) : Bool := l.any (covers · a)

/-- The entries that no entry covers. -/
def uncovered (covers : α → α → Bool) (l : List α) : List α :=
  l.filter fun a => !isCovered covers l a

variable {covers : α → α → Bool} {l : List α}

/-- An entry of a part that holds whatever covers its entries is covered within the part. -/
lemma isCovered_filter {p : α → Bool} {a : α}
    (closed : ∀ b, covers b a = true → p b = true) :
    isCovered covers (l.filter p) a = isCovered covers l a := by
  rw [isCovered, isCovered, List.any_filter]
  refine congrArg (l.any ·) (funext fun b => ?_)
  cases above : covers b a with
  | false => exact Bool.and_false _
  | true => rw [closed b above, Bool.and_self]

/-- What covers an entry of a list with one more entry in it. -/
lemma isCovered_append_cons {front back : List α} {a b : α} :
    isCovered covers (front ++ a :: back) b = (isCovered covers (front ++ back) b || covers a b) := by
  simp [isCovered, Bool.or_assoc, Bool.or_comm (covers a b)]

/-- Taking out a covered entry covers and uncovers nothing. -/
lemma isCovered_append_of_covered (order : Covering covers) {front back : List α} {a : α}
    (covered : isCovered covers (front ++ a :: back) a = true) (b : α) :
    isCovered covers (front ++ back) b = isCovered covers (front ++ a :: back) b := by
  rw [isCovered_append_cons, order.irrefl, Bool.or_false] at covered
  rw [isCovered_append_cons]
  cases below : covers a b with
  | false => rw [Bool.or_false]
  | true =>
    obtain ⟨c, member, above⟩ := List.any_eq_true.1 covered
    rw [Bool.or_true]
    exact List.any_eq_true.2 ⟨c, member, order.trans c a b above below⟩

/-- Erasing a covered entry keeps the entries that are not covered. -/
lemma uncovered_eraseP (order : Covering covers) (some : l.any (isCovered covers l) = true) :
    uncovered covers (l.eraseP (isCovered covers l)) = uncovered covers l := by
  obtain ⟨x, member, found⟩ := List.any_eq_true.1 some
  obtain ⟨a, front, back, _, covered, parts, erased⟩ := List.exists_of_eraseP member found
  rw [erased]
  rw [parts] at covered ⊢
  unfold uncovered
  simp only [isCovered_append_of_covered order covered, List.filter_append, List.filter_cons,
    covered, Bool.not_true, Bool.false_eq_true, if_false]

/-- When nothing is covered, every entry stays. -/
lemma uncovered_eq_self (none : l.any (isCovered covers l) = false) : uncovered covers l = l := by
  rw [uncovered, List.filter_eq_self]
  intro a member
  rw [List.any_eq_false] at none
  simpa using none a member

/-- There are at most as many uncovered entries as entries. -/
lemma length_uncovered_le : (uncovered covers l).length ≤ l.length := List.length_filter_le _ _

/-- Every entry is uncovered exactly when nothing is covered. -/
lemma length_uncovered_eq_iff :
    (uncovered covers l).length = l.length ↔ l.any (isCovered covers l) = false := by
  rw [uncovered, List.length_filter_eq_length_iff, List.any_eq_false]
  simp only [Bool.not_eq_true', Bool.not_eq_true]

/-- An entry that nothing covers is one of the uncovered ones. -/
lemma mem_uncovered {a : α} : a ∈ uncovered covers l ↔ a ∈ l ∧ isCovered covers l a = false := by
  simp [uncovered]

/-- One more entry brings a covered entry about when one was covered already, or when it covers an
entry of the list or is covered by one. -/
lemma any_isCovered_concat (order : Covering covers) {a : α} :
    (l ++ [a]).any (isCovered covers (l ++ [a])) = true ↔
      l.any (isCovered covers l) = true ∨ ∃ b ∈ l, covers b a = true ∨ covers a b = true := by
  simp only [List.any_append, List.any_cons, List.any_nil, Bool.or_false, isCovered,
    Bool.or_eq_true, List.any_eq_true, order.irrefl]
  constructor
  · rintro (⟨b, member, covered | above⟩ | ⟨b, member, above⟩)
    · exact .inl ⟨b, member, covered⟩
    · exact .inr ⟨b, member, .inr above⟩
    · exact .inr ⟨b, member, .inl above⟩
  · rintro (⟨b, member, covered⟩ | ⟨b, member, above | above⟩)
    · exact .inl ⟨b, member, .inl covered⟩
    · exact .inr ⟨b, member, above⟩
    · exact .inl ⟨b, member, .inr above⟩

end Lib

import Mathlib.Data.List.Basic
import Mathlib.Tactic.Common

/-!
# Input in blocks

A function over blocks of one size is fed an input of any length. Feeding single elements keeps the
elements of the block that is not full yet beside the chaining value, and whole blocks of an input are
absorbed one after the other, so the cuts between the pieces of an input do not matter.
-/

namespace Lib

variable {α σ : Type*}

section Blocks

variable (step : σ → List α → σ) (size : Nat)

/-- The chaining value after `n` blocks from the front of an input. -/
def foldBlocks : Nat → σ → List α → σ
  | 0, s, _ => s
  | n + 1, s, l => foldBlocks n (step s (l.take size)) (l.drop size)

/-- Feed one element: it joins the block that is not full yet, and a full block is absorbed. -/
def feed (p : σ × List α) (a : α) : σ × List α :=
  if p.2.length + 1 < size then (p.1, p.2 ++ [a]) else (step p.1 (p.2 ++ [a]), [])

/-- The first block of an input and the rest. -/
lemma foldBlocks_succ {n : Nat} {s : σ} {l : List α} :
    foldBlocks step size (n + 1) s l = foldBlocks step size n (step s (l.take size)) (l.drop size) :=
  rfl

end Blocks

variable {step : σ → List α → σ} {size : Nat} {s : σ}

/-- An element that does not fill the block is kept. -/
lemma feed_short {block : List α} {a : α} (fits : block.length + 1 < size) :
    feed step size (s, block) a = (s, block ++ [a]) := if_pos fits

/-- An element that fills the block has it absorbed. -/
lemma feed_full {block : List α} {a : α} (full : size ≤ block.length + 1) :
    feed step size (s, block) a = (step s (block ++ [a]), []) := if_neg (Nat.not_lt.2 full)

/-- Elements that do not fill a block are kept. -/
lemma foldl_feed_short {block l : List α} (short : block.length + l.length < size) :
    l.foldl (feed step size) (s, block) = (s, block ++ l) := by
  induction l generalizing block with
  | nil => rw [List.foldl_nil, List.append_nil]
  | cons a rest ih =>
    rw [List.length_cons] at short
    rw [List.foldl_cons, feed_short (by omega), ih, List.append_assoc, List.singleton_append]
    rw [List.length_append, List.length_singleton]
    omega

/-- Elements that fill the block have it absorbed. -/
lemma foldl_feed_full {block l : List α} (some : l ≠ [])
    (full : block.length + l.length = size) :
    l.foldl (feed step size) (s, block) = (step s (block ++ l), []) := by
  obtain ⟨front, last, rfl⟩ := l.eq_nil_or_concat.resolve_left some
  rw [List.concat_eq_append, List.length_append, List.length_singleton] at full
  rw [List.concat_eq_append, List.foldl_concat, foldl_feed_short (by omega), feed_full,
    List.append_assoc]
  rw [List.length_append]
  omega

/-- An input is absorbed block by block, and what is left of it is kept. -/
theorem foldl_feed (positive : 0 < size) {l : List α} :
    l.foldl (feed step size) (s, []) =
      (foldBlocks step size (l.length / size) s l, l.drop (size * (l.length / size))) := by
  induction count : l.length / size generalizing s l with
  | zero =>
    have short : l.length < size := (Nat.div_eq_zero_iff_lt positive).1 count
    rw [foldl_feed_short (by rw [List.length_nil]; omega), List.nil_append, foldBlocks, Nat.mul_zero,
      List.drop_zero]
  | succ n ih =>
    have long : size ≤ l.length := by
      by_contra short
      rw [Nat.div_eq_of_lt (Nat.lt_of_not_le short)] at count
      cases count
    have length : (l.take size).length = size := by
      rw [List.length_take, Nat.min_eq_left long]
    have some : l.take size ≠ [] := by
      intro none
      rw [none, List.length_nil] at length
      omega
    have fewer : (l.drop size).length / size = n := by
      rw [List.length_drop]
      exact Nat.succ.inj ((Nat.div_eq_sub_div positive long).symm.trans count)
    conv_lhs => rw [← List.take_append_drop size l]
    rw [List.foldl_append, foldl_feed_full some (by rw [List.length_nil, length, Nat.zero_add]),
      List.nil_append, ih fewer, foldBlocks_succ, List.drop_drop, Nat.mul_succ, Nat.add_comm size]

/-- The block that is not full yet is shorter than a block. -/
lemma length_foldl_feed (positive : 0 < size) {p : σ × List α} (short : p.2.length < size)
    {l : List α} : (l.foldl (feed step size) p).2.length = (p.2.length + l.length) % size := by
  induction l generalizing p with
  | nil => rw [List.foldl_nil, List.length_nil, Nat.add_zero, Nat.mod_eq_of_lt short]
  | cons a rest ih =>
    rw [List.foldl_cons, List.length_cons]
    by_cases fits : p.2.length + 1 < size
    · have kept : (feed step size p a).2.length = p.2.length + 1 := by
        rw [feed, if_pos fits, List.length_append, List.length_singleton]
      rw [ih (by omega), kept, Nat.add_right_comm, Nat.add_assoc]
    · have full : p.2.length + 1 = size := by omega
      have none : (feed step size p a).2.length = 0 := by
        rw [feed, if_neg fits, List.length_nil]
      rw [ih (by omega), none, Nat.add_comm rest.length 1, ← Nat.add_assoc, full, Nat.zero_add,
        Nat.add_mod_left]

end Lib

import Mathlib.Algebra.Group.Int.Defs
import Mathlib.Algebra.Group.Nat.Defs
import Mathlib.Data.Nat.Log
import Mathlib.Tactic.Common

/-!
# Binary64 numbers

A binary64 number is its 64 bits: a sign, eleven bits of exponent and 52 bits of fraction. A finite
number is an integer multiple of `2 ^ (-1074)`, so comparison, conversion from an integer and
subtraction are computed on these multiples; a result that is not representable is rounded to
nearest, ties to even.
-/

namespace Lib

/-- A binary64 number, by its bits. -/
structure Binary64 where
  bits : UInt64
deriving DecidableEq

namespace Binary64

/-- The sign bit. -/
def negative (x : Binary64) : Bool := 2 ^ 63 ≤ x.bits.toNat

/-- The bits without the sign. -/
def magnitude (x : Binary64) : Nat := x.bits.toNat % 2 ^ 63

/-- The magnitude of the infinities; every larger magnitude is a NaN. -/
def infinite : Nat := 2047 * 2 ^ 52

/-- Not a number. -/
def isNaN (x : Binary64) : Bool := infinite < x.magnitude

/-- Neither infinite nor a NaN. -/
def isFinite (x : Binary64) : Bool := x.magnitude < infinite

/-- A finite number is not a NaN. -/
lemma not_isNaN_of_isFinite {x : Binary64} (h : x.isFinite) : x.isNaN = false := by
  simp only [isFinite, isNaN, decide_eq_true_eq, decide_eq_false_iff_not] at *
  omega

/-- The place of a number in the numerical order; both zeros have the place zero. -/
def rank (x : Binary64) : Int := if x.negative then -(x.magnitude : Int) else x.magnitude

/-- Numerical less-than, false when an operand is a NaN. -/
def lt (x y : Binary64) : Bool := !x.isNaN && !y.isNaN && decide (x.rank < y.rank)

/-- Numerical less-or-equal, false when an operand is a NaN. -/
def le (x y : Binary64) : Bool := !x.isNaN && !y.isNaN && decide (x.rank ≤ y.rank)

/-- Numerical equality, false when an operand is a NaN and true between the zeros. -/
def eq (x y : Binary64) : Bool := !x.isNaN && !y.isNaN && decide (x.rank = y.rank)

/-- A finite number as a multiple of `2 ^ (-1074)`. -/
def scaled (x : Binary64) : Int :=
  let exponent := x.magnitude / 2 ^ 52
  let fraction := x.magnitude % 2 ^ 52
  let n : Nat := if exponent = 0 then fraction else (2 ^ 52 + fraction) * 2 ^ (exponent - 1)
  if x.negative then -(n : Int) else n

/-- The number with a sign and a magnitude. -/
def ofMagnitude (negative : Bool) (n : Nat) : Binary64 :=
  ⟨UInt64.ofNat (if negative then 2 ^ 63 + n else n)⟩

/-- The magnitude of `n` multiples of `2 ^ (-1074)`, rounded to nearest, ties to even. -/
def roundMagnitude (n : Nat) : Nat :=
  if n < 2 ^ 53 then n
  else
    let shift := n.log2 - 52
    let quotient := n / 2 ^ shift
    let remainder := n % 2 ^ shift
    let half := 2 ^ (shift - 1)
    let rounded :=
      if half < remainder ∨ (remainder = half ∧ quotient % 2 = 1) then quotient + 1 else quotient
    min (shift * 2 ^ 52 + rounded) infinite

/-- The number closest to `n` multiples of `2 ^ (-1074)`; an exact zero is positive. -/
def ofScaled (n : Int) : Binary64 := ofMagnitude (decide (n < 0)) (roundMagnitude n.natAbs)

/-- Conversion from an integer. -/
def ofInt (n : Int) : Binary64 := ofScaled (n * 2 ^ 1074)

/-- A quiet NaN. -/
def nan : Binary64 := ofMagnitude false (infinite + 2 ^ 51)

/-- Subtraction. -/
def sub (x y : Binary64) : Binary64 :=
  if x.isNaN || y.isNaN then nan
  else if x.isFinite && y.isFinite then
    -- the difference of equal zeros keeps the sign that both addends have
    if x.magnitude = 0 ∧ y.magnitude = 0 then ofMagnitude (x.negative && !y.negative) 0
    else ofScaled (x.scaled - y.scaled)
  else if x.isFinite then ofMagnitude (!y.negative) infinite
  else if y.isFinite then x
  else if x.negative = y.negative then nan
  else x

/-- The smaller of two numbers, the first one when the second is not smaller. -/
def min (x y : Binary64) : Binary64 := if lt y x then y else x

/-- The larger of two numbers, the first one when it is not smaller. -/
def max (x y : Binary64) : Binary64 := if lt x y then y else x

example : ofInt (-40) = ⟨0xC044000000000000⟩ := by decide +kernel

/-- The order on numbers that are not NaNs is the order of their ranks. -/
lemma lt_iff {x y : Binary64} (hx : x.isNaN = false) (hy : y.isNaN = false) :
    lt x y = true ↔ x.rank < y.rank := by
  simp [lt, hx, hy]

/-- Equality of numbers that are not NaNs is equality of their ranks. -/
lemma eq_iff {x y : Binary64} (hx : x.isNaN = false) (hy : y.isNaN = false) :
    eq x y = true ↔ x.rank = y.rank := by
  simp [eq, hx, hy]

/-- A number that is not a NaN equals itself. -/
lemma eq_self {x : Binary64} (hx : x.isNaN = false) : x.eq x = true := by
  simp [eq, hx]

/-- Equal numbers are below the same numbers. -/
lemma le_congr_left {x y : Binary64} (h : x.eq y = true) (z : Binary64) : x.le z = y.le z := by
  simp only [eq, Bool.and_eq_true, Bool.not_eq_true', decide_eq_true_eq] at h
  obtain ⟨⟨hx, hy⟩, same⟩ := h
  rw [le, le, hx, hy, same]

/-- Equal numbers are above the same numbers. -/
lemma le_congr_right {x y : Binary64} (h : x.eq y = true) (z : Binary64) : z.le x = z.le y := by
  simp only [eq, Bool.and_eq_true, Bool.not_eq_true', decide_eq_true_eq] at h
  obtain ⟨⟨hx, hy⟩, same⟩ := h
  rw [le, le, hx, hy, same]

/-- Equality of numbers is symmetric, and no NaN is equal to anything. -/
lemma eq_symm {x y : Binary64} (h : x.eq y = true) : y.eq x = true := by
  simp only [eq, Bool.and_eq_true, Bool.not_eq_true', decide_eq_true_eq] at *
  exact ⟨⟨h.1.2, h.1.1⟩, h.2.symm⟩

/-- Equality of numbers is transitive. -/
lemma eq_trans {x y z : Binary64} (h : x.eq y = true) (h' : y.eq z = true) : x.eq z = true := by
  simp only [eq, Bool.and_eq_true, Bool.not_eq_true', decide_eq_true_eq] at *
  exact ⟨⟨h.1.1, h'.1.2⟩, h.2.trans h'.2⟩

end Binary64

end Lib

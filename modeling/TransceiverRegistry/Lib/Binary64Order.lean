import TransceiverRegistry.Lib.Binary64

/-!
# The order of binary64 numbers

Rounding keeps the order of the exact values, so the difference of two finite numbers grows with the
first and falls with the second. The difference of the largest and the smallest number of a list is
therefore the largest difference of any two.
-/

namespace Lib

namespace Binary64

/-- The number of multiples of `2 ^ (-1074)` of a magnitude. -/
def units (magnitude : Nat) : Nat :=
  if magnitude / 2 ^ 52 = 0 then magnitude % 2 ^ 52
  else (2 ^ 52 + magnitude % 2 ^ 52) * 2 ^ (magnitude / 2 ^ 52 - 1)

/-- The units of a number are those of its magnitude, with its sign. -/
lemma scaled_eq (x : Binary64) :
    x.scaled = if x.negative then -(units x.magnitude : Int) else units x.magnitude := rfl

/-- A greater magnitude has at least as many units. -/
lemma units_mono {m n : Nat} (h : m ≤ n) : units m ≤ units n := by
  have exponent : m / 2 ^ 52 ≤ n / 2 ^ 52 := Nat.div_le_div_right h
  have fractionM := Nat.mod_lt m (show 0 < 2 ^ 52 by decide)
  have splitM := Nat.div_add_mod m (2 ^ 52)
  have splitN := Nat.div_add_mod n (2 ^ 52)
  unfold units
  rcases Nat.eq_or_lt_of_le exponent with same | less
  · -- the same exponent: the fractions decide
    rw [same] at splitM ⊢
    have fraction : m % 2 ^ 52 ≤ n % 2 ^ 52 := by omega
    split
    · exact fraction
    · exact Nat.mul_le_mul_right _ (by omega)
  · have power : 1 ≤ 2 ^ (n / 2 ^ 52 - 1) := Nat.one_le_two_pow
    rw [if_neg (show n / 2 ^ 52 ≠ 0 by omega)]
    split
    · calc m % 2 ^ 52 ≤ (2 ^ 52 + n % 2 ^ 52) * 1 := by omega
        _ ≤ _ := Nat.mul_le_mul_left _ power
    · rename_i normal
      calc (2 ^ 52 + m % 2 ^ 52) * 2 ^ (m / 2 ^ 52 - 1)
          ≤ 2 ^ 53 * 2 ^ (m / 2 ^ 52 - 1) := Nat.mul_le_mul_right _ (by omega)
        _ = 2 ^ 52 * 2 ^ (m / 2 ^ 52) := by
          rw [← Nat.pow_add, ← Nat.pow_add]
          congr 1
          omega
        _ ≤ 2 ^ 52 * 2 ^ (n / 2 ^ 52 - 1) :=
          Nat.mul_le_mul_left _ (Nat.pow_le_pow_right (by decide) (by omega))
        _ ≤ _ := Nat.mul_le_mul_right _ (by omega)

/-- The magnitude zero has no units. -/
lemma units_zero : units 0 = 0 := rfl

/-- A number that is not before another one in the order has at least its value. -/
lemma scaled_mono {x y : Binary64} (h : x.rank ≤ y.rank) : x.scaled ≤ y.scaled := by
  rw [scaled_eq, scaled_eq]
  unfold rank at h
  cases hx : x.negative <;> cases hy : y.negative <;>
    simp only [hx, hy, Bool.false_eq_true, if_true, if_false] at h ⊢
  · have := units_mono (m := x.magnitude) (n := y.magnitude) (by omega)
    omega
  · have zeroX : x.magnitude = 0 := by omega
    have zeroY : y.magnitude = 0 := by omega
    rw [zeroX, zeroY, units_zero]
    omega
  · omega
  · have := units_mono (m := y.magnitude) (n := x.magnitude) (by omega)
    omega

/-- The quotient by a power of two, rounded to nearest, ties to even. -/
def roundQuotient (n shift : Nat) : Nat :=
  if 2 ^ (shift - 1) < n % 2 ^ shift ∨
      (n % 2 ^ shift = 2 ^ (shift - 1) ∧ n / 2 ^ shift % 2 = 1) then n / 2 ^ shift + 1
  else n / 2 ^ shift

/-- Rounding of a number that has too many binary digits. -/
lemma roundMagnitude_eq {n : Nat} (large : 2 ^ 53 ≤ n) : roundMagnitude n =
    Nat.min ((n.log2 - 52) * 2 ^ 52 + roundQuotient n (n.log2 - 52)) infinite :=
  if_neg (Nat.not_lt.2 large)

/-- A rounded quotient is the quotient or the next number. -/
lemma roundQuotient_bounds (n shift : Nat) :
    n / 2 ^ shift ≤ roundQuotient n shift ∧ roundQuotient n shift ≤ n / 2 ^ shift + 1 := by
  unfold roundQuotient
  split <;> omega

/-- Rounding a quotient keeps the order. -/
lemma roundQuotient_mono {m n shift : Nat} (h : m ≤ n) :
    roundQuotient m shift ≤ roundQuotient n shift := by
  have quotient : m / 2 ^ shift ≤ n / 2 ^ shift := Nat.div_le_div_right h
  have boundM := roundQuotient_bounds m shift
  have boundN := roundQuotient_bounds n shift
  rcases Nat.eq_or_lt_of_le quotient with same | less
  · have splitM := Nat.div_add_mod m (2 ^ shift)
    have splitN := Nat.div_add_mod n (2 ^ shift)
    rw [same] at splitM
    have remainder : m % 2 ^ shift ≤ n % 2 ^ shift := by omega
    unfold roundQuotient
    rw [same]
    split <;> split <;> omega
  · omega

/-- A number with more than 53 binary digits loses those beyond. -/
lemma quotient_bounds {n : Nat} (large : 2 ^ 53 ≤ n) :
    1 ≤ n.log2 - 52 ∧ 2 ^ 52 ≤ n / 2 ^ (n.log2 - 52) ∧ n / 2 ^ (n.log2 - 52) < 2 ^ 53 := by
  have positive : n ≠ 0 := by
    rintro rfl
    exact absurd large (by decide)
  have digits : 53 ≤ n.log2 := (Nat.le_log2 positive).2 large
  have below : 2 ^ n.log2 ≤ n := Nat.log2_self_le positive
  have above : n < 2 ^ (n.log2 + 1) := Nat.lt_log2_self
  refine ⟨by omega, ?_, ?_⟩
  · rw [Nat.le_div_iff_mul_le (Nat.two_pow_pos _), ← Nat.pow_add]
    rwa [show 52 + (n.log2 - 52) = n.log2 by omega]
  · rw [Nat.div_lt_iff_lt_mul (Nat.two_pow_pos _), ← Nat.pow_add]
    rwa [show 53 + (n.log2 - 52) = n.log2 + 1 by omega]

/-- Rounding keeps the order. -/
lemma roundMagnitude_mono {m n : Nat} (h : m ≤ n) : roundMagnitude m ≤ roundMagnitude n := by
  by_cases small : n < 2 ^ 53
  · rw [roundMagnitude, if_pos (by omega), roundMagnitude, if_pos small]
    exact h
  · have large : 2 ^ 53 ≤ n := Nat.not_lt.1 small
    obtain ⟨shiftN, lowN, _⟩ := quotient_bounds large
    have roundN := roundQuotient_bounds n (n.log2 - 52)
    rw [roundMagnitude_eq large]
    by_cases smallM : m < 2 ^ 53
    · rw [roundMagnitude, if_pos smallM]
      refine Nat.le_min.2 ⟨?_, ?_⟩
      · have := Nat.mul_le_mul_right (2 ^ 52) shiftN
        omega
      · unfold infinite
        omega
    · have largeM : 2 ^ 53 ≤ m := Nat.not_lt.1 smallM
      obtain ⟨_, _, highM⟩ := quotient_bounds largeM
      have roundM := roundQuotient_bounds m (m.log2 - 52)
      have logs : m.log2 ≤ n.log2 := by
        rw [Nat.log2_eq_log_two, Nat.log2_eq_log_two]
        exact Nat.log_mono_right h
      rw [roundMagnitude_eq largeM]
      refine Nat.le_min.2 ⟨(Nat.min_le_left _ _).trans ?_, Nat.min_le_right _ _⟩
      rcases Nat.eq_or_lt_of_le logs with same | less
      · rw [same]
        exact Nat.add_le_add_left (roundQuotient_mono h) _
      · have := Nat.mul_le_mul_right (2 ^ 52) (show m.log2 - 52 + 1 ≤ n.log2 - 52 by omega)
        omega

/-- A rounded magnitude is not a NaN. -/
lemma roundMagnitude_le (n : Nat) : roundMagnitude n ≤ infinite := by
  by_cases small : n < 2 ^ 53
  · rw [roundMagnitude, if_pos small]
    unfold infinite
    omega
  · rw [roundMagnitude_eq (Nat.not_lt.1 small)]
    exact Nat.min_le_right _ _

/-- The bits of a number with a sign and a magnitude. -/
lemma toNat_ofMagnitude {s : Bool} {n : Nat} (le : n ≤ infinite) :
    (ofMagnitude s n).bits.toNat = if s then 2 ^ 63 + n else n := by
  unfold infinite at le
  rw [ofMagnitude, UInt64.toNat_ofNat_of_lt']
  simp only [UInt64.size]
  split <;> omega

/-- The magnitude of a number with a sign and a magnitude. -/
lemma magnitude_ofMagnitude {s : Bool} {n : Nat} (le : n ≤ infinite) :
    (ofMagnitude s n).magnitude = n := by
  rw [magnitude, toNat_ofMagnitude le]
  unfold infinite at le
  split <;> omega

/-- The place of a number with a sign and a magnitude. -/
lemma rank_ofMagnitude {s : Bool} {n : Nat} (le : n ≤ infinite) :
    (ofMagnitude s n).rank = if s then -(n : Int) else n := by
  have sign : (ofMagnitude s n).negative = s := by
    rw [negative, toNat_ofMagnitude le]
    unfold infinite at le
    cases s
    · simp only [Bool.false_eq_true, if_false, decide_eq_false_iff_not]
      omega
    · simp
  rw [rank, magnitude_ofMagnitude le, sign]

/-- The number closest to a number of units is not a NaN. -/
lemma isNaN_ofScaled (n : Int) : (ofScaled n).isNaN = false := by
  rw [isNaN, ofScaled, magnitude_ofMagnitude (roundMagnitude_le _), decide_eq_false_iff_not]
  exact Nat.not_lt.2 (roundMagnitude_le _)

/-- Rounding to a number keeps the order. -/
lemma rank_ofScaled_mono {m n : Int} (h : m ≤ n) : (ofScaled m).rank ≤ (ofScaled n).rank := by
  rw [ofScaled, ofScaled, rank_ofMagnitude (roundMagnitude_le _),
    rank_ofMagnitude (roundMagnitude_le _)]
  by_cases hm : m < 0 <;> by_cases hn : n < 0 <;>
    simp only [hm, hn, decide_true, decide_false, Bool.false_eq_true, if_true, if_false]
  · have := roundMagnitude_mono (m := n.natAbs) (n := m.natAbs) (by omega)
    omega
  · omega
  · omega
  · have := roundMagnitude_mono (m := m.natAbs) (n := n.natAbs) (by omega)
    omega

variable {x y lo hi : Binary64}

/-- The difference of finite numbers is their rounded difference in units. -/
lemma rank_sub (hx : x.isFinite) (hy : y.isFinite) :
    (x.sub y).rank = (ofScaled (x.scaled - y.scaled)).rank ∧ (x.sub y).isNaN = false := by
  rw [sub, not_isNaN_of_isFinite hx, not_isNaN_of_isFinite hy, hx, hy]
  simp only [Bool.or_self, Bool.false_eq_true, if_false, Bool.and_self, if_true]
  split
  · rename_i zeros
    have unitsX : x.scaled = 0 := by
      rw [scaled_eq, zeros.1, units_zero]
      simp
    have unitsY : y.scaled = 0 := by
      rw [scaled_eq, zeros.2, units_zero]
      simp
    rw [unitsX, unitsY]
    refine ⟨?_, ?_⟩
    · rw [rank_ofMagnitude (Nat.zero_le _)]
      split <;> rfl
    · rw [isNaN, magnitude_ofMagnitude (Nat.zero_le _)]
      rfl
  · exact ⟨rfl, isNaN_ofScaled _⟩

/-- The difference grows with the first number and falls with the second. -/
lemma rank_sub_mono {x' y' : Binary64} (hx : x.isFinite) (hy : y.isFinite) (hx' : x'.isFinite)
    (hy' : y'.isFinite) (above : x.rank ≤ x'.rank) (below : y'.rank ≤ y.rank) :
    (x.sub y).rank ≤ (x'.sub y').rank := by
  rw [(rank_sub hx hy).1, (rank_sub hx' hy').1]
  have up := scaled_mono above
  have down := scaled_mono below
  exact rank_ofScaled_mono (by omega)

/-- The larger of two finite numbers. -/
lemma max_spec (hx : x.isFinite) (hy : y.isFinite) :
    (max x y).isFinite ∧ x.rank ≤ (max x y).rank ∧ y.rank ≤ (max x y).rank := by
  have order := lt_iff (not_isNaN_of_isFinite hx) (not_isNaN_of_isFinite hy)
  unfold max
  split
  · rename_i less
    exact ⟨hy, (order.1 less).le, le_rfl⟩
  · rename_i notLess
    exact ⟨hx, le_rfl, not_lt.1 (mt order.2 notLess)⟩

/-- The smaller of two finite numbers. -/
lemma min_spec (hx : x.isFinite) (hy : y.isFinite) :
    (min x y).isFinite ∧ (min x y).rank ≤ x.rank ∧ (min x y).rank ≤ y.rank := by
  have order := lt_iff (not_isNaN_of_isFinite hy) (not_isNaN_of_isFinite hx)
  unfold min
  split
  · rename_i less
    exact ⟨hy, (order.1 less).le, le_rfl⟩
  · rename_i notLess
    exact ⟨hx, le_rfl, not_lt.1 (mt order.2 notLess)⟩

/-- The largest of a list of finite numbers. -/
lemma foldl_max_spec {l : List Binary64} (hx : x.isFinite) (all : ∀ y ∈ l, y.isFinite) :
    (l.foldl max x).isFinite ∧ x.rank ≤ (l.foldl max x).rank ∧
      ∀ y ∈ l, y.rank ≤ (l.foldl max x).rank := by
  induction l generalizing x with
  | nil => exact ⟨hx, le_rfl, by simp⟩
  | cons y rest ih =>
    obtain ⟨finite, aboveX, aboveY⟩ := max_spec hx (all y (by simp))
    obtain ⟨finite', above, others⟩ := ih finite fun z h => all z (by simp [h])
    refine ⟨finite', aboveX.trans above, fun z member => ?_⟩
    obtain rfl | member := List.mem_cons.1 member
    · exact aboveY.trans above
    · exact others z member

/-- The smallest of a list of finite numbers. -/
lemma foldl_min_spec {l : List Binary64} (hx : x.isFinite) (all : ∀ y ∈ l, y.isFinite) :
    (l.foldl min x).isFinite ∧ (l.foldl min x).rank ≤ x.rank ∧
      ∀ y ∈ l, (l.foldl min x).rank ≤ y.rank := by
  induction l generalizing x with
  | nil => exact ⟨hx, le_rfl, by simp⟩
  | cons y rest ih =>
    obtain ⟨finite, belowX, belowY⟩ := min_spec hx (all y (by simp))
    obtain ⟨finite', below, others⟩ := ih finite fun z h => all z (by simp [h])
    refine ⟨finite', below.trans belowX, fun z member => ?_⟩
    obtain rfl | member := List.mem_cons.1 member
    · exact below.trans belowY
    · exact others z member

/-- The difference of the largest and the smallest number of a list bounds the difference of any two
of them. -/
lemma lt_sub_of_lt_sub {bound first : Binary64} {l : List Binary64} (hfirst : first.isFinite)
    (all : ∀ z ∈ l, z.isFinite) (hx : x ∈ l) (hy : y ∈ l) (less : bound.lt (x.sub y) = true) :
    bound.lt ((l.foldl max first).sub (l.foldl min first)) = true := by
  obtain ⟨finiteMax, _, above⟩ := foldl_max_spec hfirst all
  obtain ⟨finiteMin, _, below⟩ := foldl_min_spec hfirst all
  have number := (rank_sub finiteMax finiteMin).2
  have grows := rank_sub_mono (all x hx) (all y hy) finiteMax finiteMin (above x hx) (below y hy)
  simp only [lt, Bool.and_eq_true, Bool.not_eq_true', decide_eq_true_eq] at less ⊢
  exact ⟨⟨less.1.1, number⟩, less.2.trans_le grows⟩

end Binary64

end Lib

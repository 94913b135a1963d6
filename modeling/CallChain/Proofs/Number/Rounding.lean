import CallChain.Number.Binary64
import Mathlib.Algebra.Order.Ring.Nat
import Mathlib.Tactic.Linarith
import Mathlib.Tactic.Ring

/-! Rounding: how far a rounded magnitude can be from what is rounded, and when it is finite. -/

namespace CallChain.Binary64

/-- Rounding a quotient moves it by half a unit at most, and never below the whole units. -/
theorem divideToEven_bounds (numerator : Nat) {denominator : Nat} (positive : 0 < denominator) :
    numerator / denominator ≤ divideToEven numerator denominator ∧
      divideToEven numerator denominator ≤ numerator / denominator + 1 ∧
      2 * (divideToEven numerator denominator * denominator) ≤ 2 * numerator + denominator := by
  have split := Nat.div_add_mod numerator denominator
  have rest := Nat.mod_lt numerator positive
  have whole : denominator * (numerator / denominator) = numerator / denominator * denominator :=
    Nat.mul_comm _ _
  unfold divideToEven
  simp only [Bool.or_eq_true, Bool.and_eq_true, decide_eq_true_eq]
  -- The quotient is raised only when at least half a unit is left over.
  split
  next up =>
    refine ⟨Nat.le_succ _, Nat.le_refl _, ?_⟩
    rw [Nat.add_mul, Nat.one_mul]
    omega
  next => exact ⟨Nat.le_refl _, Nat.le_succ _, by omega⟩

/-- How many binary places of a ratio are dropped so that 53 are left. -/
def scaleOf (numerator denominator : Nat) : Nat :=
  Nat.log2 (numerator / denominator) - 52

/-- What a ratio is rounded to once places are dropped. -/
def significandOf (numerator denominator : Nat) : Nat :=
  divideToEven numerator (denominator * 2 ^ scaleOf numerator denominator)

/-- The bits nearest to a ratio are those of its rounded significand at its scale. -/
theorem nearestBits_eq (numerator denominator : Nat) :
    nearestBits numerator denominator =
      min (scaleOf numerator denominator * 2 ^ 52 + significandOf numerator denominator)
        infinityBits :=
  rfl

variable {numerator denominator : Nat}

/-- Fewer than 54 binary places are left of a ratio. -/
theorem dropped_lt (numerator denominator : Nat) :
    numerator / (denominator * 2 ^ scaleOf numerator denominator) < 2 ^ 53 := by
  rw [← Nat.div_div_eq_div_mul, Nat.div_lt_iff_lt_mul (Nat.two_pow_pos _), ← Nat.pow_add]
  refine Nat.lt_of_lt_of_le Nat.lt_log2_self ?_
  refine Nat.pow_le_pow_right (by decide) ?_
  unfold scaleOf
  omega

/-- So the significand has 53 at most, or is the first number beyond them. -/
theorem significandOf_le (positive : 0 < denominator) :
    significandOf numerator denominator ≤ 2 ^ 53 := by
  have step : 0 < denominator * 2 ^ scaleOf numerator denominator :=
    Nat.mul_pos positive (Nat.two_pow_pos _)
  have bounds := divideToEven_bounds numerator step
  have below := dropped_lt numerator denominator
  unfold significandOf
  omega

/-- Of a ratio with enough places, 53 are left. -/
theorem le_dropped (large : 2 ^ 52 ≤ numerator / denominator) :
    2 ^ 52 ≤ numerator / (denominator * 2 ^ scaleOf numerator denominator) := by
  have nonzero : numerator / denominator ≠ 0 := by
    have least := Nat.two_pow_pos 52
    omega
  -- The leading place is not dropped.
  have places : 52 ≤ Nat.log2 (numerator / denominator) := (Nat.le_log2 nonzero).mpr large
  rw [← Nat.div_div_eq_div_mul, Nat.le_div_iff_mul_le (Nat.two_pow_pos _), ← Nat.pow_add]
  refine Nat.le_trans ?_ (Nat.log2_self_le nonzero)
  refine Nat.pow_le_pow_right (by decide) ?_
  unfold scaleOf
  omega

/-- Nothing is dropped of a ratio with fewer. -/
theorem scaleOf_eq_zero (small : numerator / denominator < 2 ^ 52) :
    scaleOf numerator denominator = 0 := by
  unfold scaleOf
  by_cases nonzero : numerator / denominator = 0
  · rw [nonzero]
    decide
  · have places := (Nat.log2_lt nonzero).mpr small
    omega

/-- So the significand of a ratio with enough places has 53 of them. -/
theorem le_significandOf (positive : 0 < denominator)
    (large : 2 ^ 52 ≤ numerator / denominator) : 2 ^ 52 ≤ significandOf numerator denominator := by
  have step : 0 < denominator * 2 ^ scaleOf numerator denominator :=
    Nat.mul_pos positive (Nat.two_pow_pos _)
  exact Nat.le_trans (le_dropped large) (divideToEven_bounds numerator step).1

/-- The scale of the largest finite magnitudes. -/
def topScale : Nat := 2045

/-- A ratio too small for the largest scale is rounded to a finite magnitude. -/
theorem nearestBits_lt (positive : 0 < denominator)
    (small : numerator / denominator < 2 ^ (52 + topScale)) :
    nearestBits numerator denominator < infinityBits := by
  have scale : scaleOf numerator denominator ≤ 2044 := by
    unfold scaleOf
    by_cases nonzero : numerator / denominator = 0
    · rw [nonzero]
      decide
    · have places := (Nat.log2_lt nonzero).mpr small
      unfold topScale at places
      omega
  have significand : significandOf numerator denominator ≤ 2 ^ 53 := significandOf_le positive
  have last : infinityBits = 2047 * 2 ^ 52 := rfl
  have product : scaleOf numerator denominator * 2 ^ 52 ≤ 2044 * 2 ^ 52 :=
    Nat.mul_le_mul_right _ scale
  rw [nearestBits_eq]
  refine Nat.lt_of_le_of_lt (Nat.min_le_left _ _) ?_
  omega

/-- Rounded magnitudes go up to that of the infinities. -/
theorem nearestBits_le (numerator denominator : Nat) :
    nearestBits numerator denominator ≤ infinityBits :=
  Nat.min_le_right _ _

/-- The bits of a number without its sign. -/
def magnitude (x : Binary64) : Nat := x.bits.toNat % 2 ^ 63

/-- The exponent field is above the fraction. -/
theorem exponentField_eq (x : Binary64) : x.exponentField = x.magnitude / 2 ^ 52 := by
  show x.bits.toNat / 2 ^ 52 % 2 ^ 11 = x.bits.toNat % 2 ^ 63 / 2 ^ 52
  omega

/-- The fraction is the rest. -/
theorem fractionField_eq (x : Binary64) : x.fractionField = x.magnitude % 2 ^ 52 := by
  show x.bits.toNat % 2 ^ 52 = x.bits.toNat % 2 ^ 63 % 2 ^ 52
  omega

/-- A number is finite when its magnitude lies below that of the infinities. -/
theorem isFinite_iff {x : Binary64} : x.isFinite = true ↔ x.magnitude < infinityBits := by
  have last : infinityBits = 2047 * 2 ^ 52 := rfl
  have small : x.magnitude < 2 ^ 63 := Nat.mod_lt _ (Nat.two_pow_pos 63)
  rw [isFinite, exponentField_eq, bne_iff_ne]
  omega

/-- A number is its magnitude with its sign. -/
theorem ofMagnitude_magnitude (x : Binary64) : ofMagnitude x.isNegative x.magnitude = x := by
  have sign : signBit = 2 ^ 63 := rfl
  have size : x.bits.toNat < 2 ^ 64 := UInt64.toNat_lt x.bits
  have bits : (if x.isNegative then signBit + x.magnitude else x.magnitude) = x.bits.toNat := by
    unfold isNegative magnitude
    rw [sign]
    simp only [decide_eq_true_eq]
    split <;> omega
  rw [ofMagnitude, bits, UInt64.ofNat_toNat]

/-- The same magnitude below zero. -/
theorem magnitude_negate (x : Binary64) : x.negate.magnitude = x.magnitude := by
  have sign : UInt64.toNat (UInt64.ofNat signBit) = 2 ^ 63 := rfl
  rw [negate, magnitude, UInt64.toNat_xor, sign, Nat.xor_mod_two_pow, Nat.mod_self, Nat.xor_zero,
    ← magnitude]

/-- A magnitude in least units. -/
theorem units_eq (x : Binary64) : x.units =
    if x.magnitude / 2 ^ 52 = 0 then x.magnitude % 2 ^ 52
    else (x.magnitude % 2 ^ 52 + 2 ^ 52) * 2 ^ (x.magnitude / 2 ^ 52 - 1) := by
  rw [units, exponentField_eq, fractionField_eq]
  rfl

/-- A magnitude stays itself under a sign. -/
theorem magnitude_ofMagnitude {negative : Bool} {magnitude : Nat}
    (small : magnitude ≤ infinityBits) :
    (ofMagnitude negative magnitude).magnitude = magnitude := by
  have last : infinityBits = 2047 * 2 ^ 52 := rfl
  have sign : signBit = 2 ^ 63 := rfl
  unfold Binary64.magnitude
  cases negative
  · simp only [ofMagnitude, Bool.false_eq_true, if_false, UInt64.toNat_ofNat']
    omega
  · simp only [ofMagnitude, if_true, UInt64.toNat_ofNat', sign]
    omega

/-- A significand at a scale is that many units, unless the magnitude is infinite. -/
theorem units_ofMagnitude {negative : Bool} {scale significand : Nat}
    (small : scale * 2 ^ 52 + significand ≤ infinityBits) (most : significand ≤ 2 ^ 53)
    (least : scale ≠ 0 → 2 ^ 52 ≤ significand) :
    (ofMagnitude negative (scale * 2 ^ 52 + significand)).units = significand * 2 ^ scale := by
  rw [units_eq, magnitude_ofMagnitude small]
  -- The hidden bit raises the exponent field by one, and a carry by one more.
  by_cases full : significand = 2 ^ 53
  · have exponent : (scale * 2 ^ 52 + significand) / 2 ^ 52 = scale + 2 := by omega
    have fraction : (scale * 2 ^ 52 + significand) % 2 ^ 52 = 0 := by omega
    rw [exponent, fraction, if_neg (by omega), full]
    have place : scale + 2 - 1 = scale + 1 := by omega
    rw [place, Nat.pow_succ]
    omega
  · by_cases hidden : 2 ^ 52 ≤ significand
    · have exponent : (scale * 2 ^ 52 + significand) / 2 ^ 52 = scale + 1 := by omega
      have fraction : (scale * 2 ^ 52 + significand) % 2 ^ 52 = significand - 2 ^ 52 := by omega
      rw [exponent, fraction, if_neg (by omega), Nat.sub_add_cancel hidden]
      rfl
    · -- Without a hidden bit the scale is that of the least unit.
      have lowest : scale = 0 := by
        by_contra other
        exact hidden (least other)
      subst lowest
      have exponent : (0 * 2 ^ 52 + significand) / 2 ^ 52 = 0 := by omega
      have fraction : (0 * 2 ^ 52 + significand) % 2 ^ 52 = significand := by omega
      rw [exponent, fraction, if_pos rfl]
      omega

/-- A ratio that is rounded to a finite magnitude is rounded to its significand at its scale. -/
theorem units_ofUnits {negative : Bool} (positive : 0 < denominator)
    (finite : nearestBits numerator denominator < infinityBits) :
    (ofUnits negative numerator denominator).units =
      significandOf numerator denominator * 2 ^ scaleOf numerator denominator := by
  rw [nearestBits_eq] at finite
  have bits : nearestBits numerator denominator =
      scaleOf numerator denominator * 2 ^ 52 + significandOf numerator denominator := by
    rw [nearestBits_eq]
    omega
  rw [ofUnits, bits]
  refine units_ofMagnitude (by omega) (significandOf_le positive) ?_
  intro dropped
  -- Nothing would be dropped of a ratio with too few places.
  by_contra few
  apply dropped
  apply scaleOf_eq_zero
  by_contra large
  exact few (le_significandOf positive (Nat.le_of_not_lt large))

/-- Rounding a ratio of enough places moves it up by one part in `2 ^ 53` at most. -/
theorem units_ofUnits_le {negative : Bool} (positive : 0 < denominator)
    (large : 2 ^ 52 ≤ numerator / denominator)
    (finite : nearestBits numerator denominator < infinityBits) :
    (ofUnits negative numerator denominator).units * denominator * 2 ^ 53 ≤
      numerator * (2 ^ 53 + 1) := by
  rw [units_ofUnits positive finite]
  have step : 0 < denominator * 2 ^ scaleOf numerator denominator :=
    Nat.mul_pos positive (Nat.two_pow_pos _)
  -- The last place kept is one part in `2 ^ 52` of the ratio at most.
  have places : 2 ^ 52 * (denominator * 2 ^ scaleOf numerator denominator) ≤ numerator :=
    (Nat.le_div_iff_mul_le step).mp (le_dropped large)
  obtain ⟨_, _, near⟩ := divideToEven_bounds numerator step
  have same : significandOf numerator denominator * 2 ^ scaleOf numerator denominator *
      denominator = significandOf numerator denominator *
        (denominator * 2 ^ scaleOf numerator denominator) := by ring
  rw [same]
  unfold significandOf
  omega

/-- A ratio below a power of two is not rounded beyond it. -/
theorem units_ofUnits_le_two_pow {negative : Bool} {places : Nat} (positive : 0 < denominator)
    (many : 53 ≤ places) (small : numerator / denominator < 2 ^ places)
    (finite : nearestBits numerator denominator < infinityBits) :
    (ofUnits negative numerator denominator).units ≤ 2 ^ places := by
  have scale : scaleOf numerator denominator ≤ places - 53 := by
    unfold scaleOf
    by_cases nonzero : numerator / denominator = 0
    · rw [nonzero]
      simp
    · have below := (Nat.log2_lt nonzero).mpr small
      omega
  have split : 2 ^ places = 2 ^ 53 * 2 ^ (places - 53) := by
    rw [← Nat.pow_add, Nat.add_sub_cancel' many]
  rw [units_ofUnits positive finite, split]
  exact Nat.mul_le_mul (significandOf_le positive) (Nat.pow_le_pow_right (by decide) scale)

/-- Nor is a ratio from a power of two on rounded below it, if it has enough places. -/
theorem two_pow_le_units_ofUnits {negative : Bool} {places : Nat} (positive : 0 < denominator)
    (many : 52 ≤ places) (large : 2 ^ places ≤ numerator / denominator)
    (finite : nearestBits numerator denominator < infinityBits) :
    2 ^ places ≤ (ofUnits negative numerator denominator).units := by
  have normal : 2 ^ 52 ≤ numerator / denominator :=
    Nat.le_trans (Nat.pow_le_pow_right (by decide) many) large
  have scale : places - 52 ≤ scaleOf numerator denominator := by
    have nonzero : numerator / denominator ≠ 0 := by
      have least := Nat.two_pow_pos 52
      omega
    have atLeast := (Nat.le_log2 nonzero).mpr large
    unfold scaleOf
    omega
  have split : 2 ^ places = 2 ^ 52 * 2 ^ (places - 52) := by
    rw [← Nat.pow_add, Nat.add_sub_cancel' many]
  rw [units_ofUnits positive finite, split]
  exact Nat.mul_le_mul (le_significandOf positive normal) (Nat.pow_le_pow_right (by decide) scale)

/-- A rounded ratio is finite when its magnitude is. -/
theorem isFinite_ofUnits_iff {negative : Bool} :
    (ofUnits negative numerator denominator).isFinite = true ↔
      nearestBits numerator denominator < infinityBits := by
  rw [isFinite_iff, ofUnits, magnitude_ofMagnitude (nearestBits_le numerator denominator)]

section Range

/-- A ratio is rounded to a finite magnitude as long as it is below half a place beyond the largest
of these. -/
theorem nearestBits_lt_of_lt (positive : 0 < denominator)
    (small : 2 * numerator < denominator * 2 ^ topScale * (2 ^ 54 - 1)) :
    nearestBits numerator denominator < infinityBits := by
  have last : infinityBits = 2047 * 2 ^ 52 := rfl
  by_cases half : numerator / denominator < 2 ^ (52 + topScale)
  · exact nearestBits_lt positive half
  · -- The ratio has the scale of the largest magnitudes, so 53 ones are the most that is left.
    have below : numerator / denominator < 2 ^ (53 + topScale) := by
      rw [Nat.div_lt_iff_lt_mul positive, Nat.pow_add, Nat.mul_assoc,
        Nat.mul_comm (2 ^ topScale)]
      omega
    have nonzero : numerator / denominator ≠ 0 := by
      intro none
      rw [none] at half
      exact half (Nat.two_pow_pos _)
    have atLeast := (Nat.le_log2 nonzero).mpr (Nat.le_of_not_lt half)
    have atMost := (Nat.log2_lt nonzero).mpr below
    have scale : scaleOf numerator denominator = topScale := by
      unfold scaleOf
      omega
    have step : 0 < denominator * 2 ^ topScale := Nat.mul_pos positive (Nat.two_pow_pos _)
    have bound : significandOf numerator denominator < 2 ^ 53 := by
      rw [significandOf, scale]
      obtain ⟨_, _, near⟩ := divideToEven_bounds numerator step
      refine Nat.lt_of_mul_lt_mul_right (a := denominator * 2 ^ topScale) ?_
      omega
    rw [nearestBits_eq, scale]
    unfold topScale
    omega

/-- A ratio that is rounded to less than one of the three largest magnitudes is itself less. -/
theorem lt_of_nearestBits_lt (positive : 0 < denominator)
    (low : nearestBits numerator denominator < infinityBits - 3) :
    numerator < denominator * 2 ^ topScale * (2 ^ 53 - 3) := by
  have last : infinityBits = 2047 * 2 ^ 52 := rfl
  by_contra large
  rw [Nat.not_lt] at large
  have half : 2 ^ (52 + topScale) ≤ numerator / denominator := by
    rw [Nat.le_div_iff_mul_le positive, Nat.pow_add, Nat.mul_assoc,
      Nat.mul_comm (2 ^ topScale)]
    omega
  have nonzero : numerator / denominator ≠ 0 := by
    intro none
    rw [none] at half
    exact absurd half (Nat.not_le_of_lt (Nat.two_pow_pos _))
  have places := (Nat.le_log2 nonzero).mpr half
  have normal : 2 ^ 52 ≤ numerator / denominator :=
    Nat.le_trans (Nat.pow_le_pow_right (by decide) (by decide)) half
  have significand := le_significandOf positive normal
  rw [nearestBits_eq] at low
  -- At the next scale every magnitude is infinite.
  by_cases next : topScale < scaleOf numerator denominator
  · have scale : 2046 * 2 ^ 52 ≤ scaleOf numerator denominator * 2 ^ 52 :=
      Nat.mul_le_mul_right _ next
    omega
  · have scale : scaleOf numerator denominator = topScale := by
      unfold scaleOf at *
      omega
    have step : 0 < denominator * 2 ^ topScale := Nat.mul_pos positive (Nat.two_pow_pos _)
    have whole : 2 ^ 53 - 3 ≤ significandOf numerator denominator := by
      rw [significandOf, scale]
      refine Nat.le_trans ?_ (divideToEven_bounds numerator step).1
      rw [Nat.le_div_iff_mul_le step, Nat.mul_comm]
      exact large
    rw [scale] at low
    unfold topScale at low
    omega

/-- A number below the three largest has fewer units. -/
theorem units_lt {x : Binary64} (low : x.magnitude < infinityBits - 3) :
    x.units < 2 ^ topScale * (2 ^ 53 - 3) := by
  have last : infinityBits = 2047 * 2 ^ 52 := rfl
  have positive : 0 < 2 ^ topScale := Nat.two_pow_pos _
  rw [units_eq]
  split
  next => omega
  next =>
    by_cases below : x.magnitude / 2 ^ 52 - 1 < topScale
    · -- At a lower scale even twice the significand is less.
      have half : 2 * 2 ^ (x.magnitude / 2 ^ 52 - 1) ≤ 2 ^ topScale := by
        rw [← Nat.pow_succ']
        exact Nat.pow_le_pow_right (by decide) below
      have significand : x.magnitude % 2 ^ 52 + 2 ^ 52 ≤ 2 ^ 53 := by omega
      have product := Nat.mul_le_mul_right (2 ^ (x.magnitude / 2 ^ 52 - 1)) significand
      omega
    · have scale : x.magnitude / 2 ^ 52 - 1 = topScale := by
        unfold topScale at *
        omega
      have significand : x.magnitude % 2 ^ 52 + 2 ^ 52 < 2 ^ 53 - 3 := by
        unfold topScale at *
        omega
      rw [scale, Nat.mul_comm]
      exact Nat.mul_lt_mul_of_pos_left significand positive

end Range

end CallChain.Binary64

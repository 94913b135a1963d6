import CallChain.Number.Scaling
import CallChain.Proofs.Number.Rounding

/-! Scaled decimals: which of them are in the range of the finite numbers. -/

namespace CallChain.Binary64

/-- How many binary places lie below one. -/
def unitPlaces : Nat := 1074

/-- One is a power of two in least units. -/
theorem unitsPerOne_eq : unitsPerOne = 2 ^ unitPlaces := by decide +kernel

/-- There is a positive number of least units in one. -/
theorem unitsPerOne_pos : 0 < unitsPerOne := by
  rw [unitsPerOne_eq]
  exact Nat.two_pow_pos unitPlaces

/-- A natural number of 64 bits is rounded to a finite number without being doubled. -/
theorem ofNat_bounds {n : Nat} (small : n < 2 ^ 64) :
    (ofNat n).isFinite = true ∧ (ofNat n).units ≤ 2 ^ (64 + unitPlaces) := by
  have ratio : n * unitsPerOne / 1 < 2 ^ (64 + unitPlaces) := by
    rw [Nat.div_one, Nat.pow_add, ← unitsPerOne_eq]
    exact Nat.mul_lt_mul_of_pos_right small unitsPerOne_pos
  have range : 64 + unitPlaces ≤ 52 + topScale := by decide
  have finite : nearestBits (n * unitsPerOne) 1 < infinityBits :=
    nearestBits_lt Nat.one_pos
      (Nat.lt_of_lt_of_le ratio (Nat.pow_le_pow_right (by decide) range))
  exact ⟨isFinite_ofUnits_iff.mpr finite,
    units_ofUnits_le_two_pow Nat.one_pos (by decide) ratio finite⟩

/-- The power that is divided by in one step is rounded to a finite magnitude. -/
theorem nearestBits_tenTo {exponent : Nat} (fits : exponent ≤ largestTen) :
    nearestBits (10 ^ exponent * unitsPerOne) 1 < infinityBits := by
  apply nearestBits_lt_of_lt Nat.one_pos
  have most : 2 * (10 ^ largestTen * unitsPerOne) < 1 * 2 ^ topScale * (2 ^ 54 - 1) := by
    decide +kernel
  have below : 10 ^ exponent ≤ 10 ^ largestTen := Nat.pow_le_pow_right (by decide) fits
  have product := Nat.mul_le_mul_right unitsPerOne below
  omega

/-- Such a power is one at least. -/
theorem unitsPerOne_le_tenTo {exponent : Nat} (fits : exponent ≤ largestTen) :
    unitsPerOne ≤ (tenTo exponent).units := by
  have large : 2 ^ unitPlaces ≤ 10 ^ exponent * unitsPerOne / 1 := by
    rw [Nat.div_one, ← unitsPerOne_eq]
    exact Nat.le_mul_of_pos_left _ (Nat.pow_pos (by decide))
  rw [unitsPerOne_eq]
  exact two_pow_le_units_ofUnits Nat.one_pos (by decide) large (nearestBits_tenTo fits)

/-- Dividing by such a power keeps a small number finite and does not double it. -/
theorem overMagnitude_bounds {x : Binary64} {places exponent : Nat} (many : 53 ≤ places)
    (few : places < 52 + topScale) (small : x.units ≤ 2 ^ places)
    (fits : exponent ≤ largestTen) :
    (overMagnitude x (tenTo exponent)).isFinite = true ∧
      (overMagnitude x (tenTo exponent)).units ≤ 2 ^ (places + 1) := by
  have least := unitsPerOne_le_tenTo fits
  have positive : 0 < (tenTo exponent).units := Nat.lt_of_lt_of_le unitsPerOne_pos least
  have ratio : x.units * unitsPerOne / (tenTo exponent).units < 2 ^ (places + 1) := by
    rw [Nat.div_lt_iff_lt_mul positive]
    have twice : 2 ^ places < 2 ^ (places + 1) := Nat.pow_lt_pow_right (by decide) (by omega)
    calc x.units * unitsPerOne
        ≤ 2 ^ places * (tenTo exponent).units := Nat.mul_le_mul small least
      _ < 2 ^ (places + 1) * (tenTo exponent).units := Nat.mul_lt_mul_of_pos_right twice positive
  have range : 2 ^ (places + 1) ≤ 2 ^ (52 + topScale) := Nat.pow_le_pow_right (by decide) few
  have finite := nearestBits_lt positive (Nat.lt_of_lt_of_le ratio range)
  exact ⟨isFinite_ofUnits_iff.mpr finite,
    units_ofUnits_le_two_pow positive (by omega) ratio finite⟩

/-- So dividing several times does. -/
theorem isFinite_shrink {fuel : Nat} {x : Binary64} {places exponent : Nat} (many : 53 ≤ places)
    (few : places + fuel ≤ 52 + topScale) (finite : x.isFinite) (small : x.units ≤ 2 ^ places) :
    (shrink fuel x exponent).isFinite := by
  -- Each step may cost a place, and there is room for far more places than steps.
  induction fuel generalizing x places exponent with
  | zero => exact finite
  | succ fuel ih =>
    unfold shrink
    split
    next fits => exact (overMagnitude_bounds many (by omega) small fits).1
    next =>
      split
      next => exact finite
      next =>
        have step := overMagnitude_bounds many (by omega) small (Nat.le_refl largestTen)
        exact ih (by omega) (by omega) step.1 step.2

/-- What a decimal is read as is finite. -/
theorem isFinite_of_ofScaled? {significand : Nat} {exponent : Int} {x : Binary64}
    (read : ofScaled? significand exponent = some x) : x.isFinite :=
  (Option.filter_eq_some_iff.mp read).2

/-- Rounding a natural number moves it up by one part in `2 ^ 53` at most. -/
theorem units_ofNat_le {n : Nat} (positive : 0 < n) (finite : (ofNat n).isFinite) :
    (ofNat n).units * 2 ^ 53 ≤ n * unitsPerOne * (2 ^ 53 + 1) := by
  -- One has more than 53 places below it, so a whole number has enough of them.
  have places : 2 ^ 52 ≤ unitsPerOne := by decide +kernel
  have large : 2 ^ 52 ≤ n * unitsPerOne / 1 := by
    rw [Nat.div_one]
    exact Nat.le_trans places (Nat.le_mul_of_pos_left _ positive)
  have near : (ofNat n).units * 1 * 2 ^ 53 ≤ n * unitsPerOne * (2 ^ 53 + 1) :=
    units_ofUnits_le Nat.one_pos large (isFinite_ofUnits_iff.mp finite)
  rw [Nat.mul_one] at near
  exact near

/-- The product of a number and a power of ten is in range if it is below the three largest. -/
theorem isFinite_timesMagnitude_tenTo {significand exponent : Nat} (positive : 0 < significand)
    (fits : exponent ≤ largestTen) (small : significand < 2 ^ 64)
    (low : significand * 10 ^ exponent * unitsPerOne < 2 ^ topScale * (2 ^ 53 - 3)) :
    (timesMagnitude (ofNat significand) (tenTo exponent)).isFinite := by
  have left := units_ofNat_le positive (ofNat_bounds small).1
  have power : 0 < 10 ^ exponent := Nat.pow_pos (by decide)
  have right : (tenTo exponent).units * 2 ^ 53 ≤ 10 ^ exponent * unitsPerOne * (2 ^ 53 + 1) :=
    units_ofNat_le power (isFinite_ofUnits_iff.mpr (nearestBits_tenTo fits))
  have product := Nat.mul_le_mul left right
  -- Both roundings together stay below half a place beyond the largest number.
  refine isFinite_ofUnits_iff.mpr (nearestBits_lt_of_lt unitsPerOne_pos ?_)
  generalize (ofNat significand).units = first at product
  generalize (tenTo exponent).units = second at product
  have range : 0 < unitsPerOne * 2 ^ topScale :=
    Nat.mul_pos unitsPerOne_pos (Nat.two_pow_pos _)
  refine Nat.lt_of_mul_lt_mul_right (a := 2 ^ 106) ?_
  calc 2 * (first * second) * 2 ^ 106
      = 2 * (first * 2 ^ 53 * (second * 2 ^ 53)) := by ring
    _ ≤ 2 * (significand * unitsPerOne * (2 ^ 53 + 1) *
          (10 ^ exponent * unitsPerOne * (2 ^ 53 + 1))) := Nat.mul_le_mul_left _ product
    _ = significand * 10 ^ exponent * unitsPerOne * (unitsPerOne * (2 * (2 ^ 53 + 1) ^ 2)) := by
      ring
    _ ≤ 2 ^ topScale * (2 ^ 53 - 3) * (unitsPerOne * (2 * (2 ^ 53 + 1) ^ 2)) :=
      Nat.mul_le_mul_right _ (Nat.le_of_lt low)
    _ = unitsPerOne * 2 ^ topScale * ((2 ^ 53 - 3) * (2 * (2 ^ 53 + 1) ^ 2)) := by ring
    _ < unitsPerOne * 2 ^ topScale * ((2 ^ 54 - 1) * 2 ^ 106) :=
      Nat.mul_lt_mul_of_pos_left (by decide) range
    _ = unitsPerOne * 2 ^ topScale * (2 ^ 54 - 1) * 2 ^ 106 := by ring

/-- Zero stays zero, whatever it is multiplied by. -/
theorem isSome_ofScaled?_zero (exponent : Nat) : (ofScaled? 0 exponent).isSome := by
  have zero : (ofNat 0).isZero := by decide +kernel
  have finite : (ofNat 0).isFinite := by decide +kernel
  have units : (ofNat 0).units = 0 := by decide +kernel
  have stays : ∀ other, (timesMagnitude (ofNat 0) other).isFinite := by
    intro other
    rw [timesMagnitude, units, Nat.zero_mul, isFinite_ofUnits_iff]
    decide +kernel
  simp only [ofScaled?, Int.natCast_nonneg, if_true, Int.toNat_natCast, zero]
  split <;> simp [Option.filter, finite, stays]

/-- A decimal with a natural exponent is in range if it is below the three largest numbers. -/
theorem isSome_ofScaled?_of_lt {significand exponent : Nat} (small : significand < 2 ^ 64)
    (low : significand * 10 ^ exponent * unitsPerOne < 2 ^ topScale * (2 ^ 53 - 3)) :
    (ofScaled? significand exponent).isSome := by
  by_cases none : significand = 0
  · subst none
    exact isSome_ofScaled?_zero exponent
  · have positive : 0 < significand := Nat.pos_of_ne_zero none
    -- A larger power of ten is out of range on its own.
    have fits : exponent ≤ largestTen := by
      by_contra beyond
      have most : 2 ^ topScale * 2 ^ 53 < 10 ^ (largestTen + 1) * unitsPerOne := by decide +kernel
      have above : 10 ^ (largestTen + 1) ≤ significand * 10 ^ exponent :=
        Nat.le_trans (Nat.pow_le_pow_right (by decide) (by omega))
          (Nat.le_mul_of_pos_left _ positive)
      have product := Nat.mul_le_mul_right unitsPerOne above
      omega
    have finite := isFinite_timesMagnitude_tenTo positive fits small low
    simp [ofScaled?, fits, Option.filter, finite]

/-- No decimal of 64 bits without a positive exponent is out of range. -/
theorem isSome_ofScaled?_of_nonpos {significand : Nat} {exponent : Int}
    (small : significand < 2 ^ 64) (negative : exponent ≤ 0) :
    (ofScaled? significand exponent).isSome := by
  by_cases whole : 0 ≤ exponent
  · -- An exponent of zero is a factor of one.
    have none : exponent = (0 : Nat) := by omega
    subst none
    refine isSome_ofScaled?_of_lt small ?_
    have most : 2 ^ 64 * unitsPerOne < 2 ^ topScale * (2 ^ 53 - 3) := by decide +kernel
    have below := Nat.mul_lt_mul_of_pos_right small unitsPerOne_pos
    rw [Nat.pow_zero, Nat.mul_one]
    exact Nat.lt_trans below most
  · obtain ⟨finite, bound⟩ := ofNat_bounds small
    have shrunk : (shrink 4 (ofNat significand) (-exponent).toNat).isFinite :=
      isFinite_shrink (by decide) (by decide) finite bound
    simp [ofScaled?, whole, Option.filter, shrunk]

end CallChain.Binary64

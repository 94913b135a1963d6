import CallChain.Number.Shortest
import CallChain.Proofs.Number.Scaling

/-! Shortest digits: they are those of a multiple of the finest place near the number. -/

namespace CallChain

/-- A decimal in multiples of the finest place, none of which it may split. -/
def Decimal.scaled (d : Decimal) : Nat :=
  d.significand * 10 ^ (d.exponent + Binary64.finestPlace).toNat

namespace Binary64

/-- A decimal is near a magnitude: some multiple of the finest place that is read as it, or the last
one below it. -/
structure Near (x : Binary64) (d : Decimal) : Prop where
  positive : 0 < d.significand
  fine : -(finestPlace : Int) ≤ d.exponent
  scaled : x.readsAs d.scaled ∨ d.scaled = x.scaledDown

variable {x : Binary64} {d : Decimal}

/-- A zero at the end does not matter. -/
theorem Near.dropZero (near : x.Near d) : x.Near d.dropZero := by
  have fine := near.fine
  have positive := near.positive
  unfold Decimal.dropZero
  split
  next zero =>
    have same : (⟨d.significand / 10, d.exponent + 1⟩ : Decimal).scaled = d.scaled := by
      have next : (d.exponent + 1 + (finestPlace : Int)).toNat =
          (d.exponent + finestPlace).toNat + 1 := by omega
      have whole : d.significand / 10 * 10 = d.significand := by omega
      show d.significand / 10 * 10 ^ (d.exponent + 1 + (finestPlace : Int)).toNat = _
      rw [next, Nat.pow_succ', ← Nat.mul_assoc, whole]
      rfl
    refine ⟨?_, ?_, ?_⟩
    · show 0 < d.significand / 10
      omega
    · show -(finestPlace : Int) ≤ d.exponent + 1
      omega
    · rw [same]
      exact near.scaled
  next => exact near

/-- How many of the finest place make up one. -/
theorem pow_finestPlace : Nat.pow 10 finestPlace = 10 ^ finestPlace := by decide +kernel

/-- A multiple of the finest place is read as a number when it is rounded to its magnitude. -/
theorem readsAs_iff {scaled : Nat} : x.readsAs scaled = true ↔
    nearestBits (scaled * unitsPerOne) (10 ^ finestPlace) = x.magnitude := by
  have same : x.bits.toNat % signBit = x.magnitude := rfl
  rw [readsAs, beq_iff_eq, pow_finestPlace, same]

/-- Zero is read as no other number. -/
theorem not_readsAs_zero (nonzero : x.units ≠ 0) : ¬x.readsAs 0 := by
  intro read
  have none : nearestBits (0 * unitsPerOne) (10 ^ finestPlace) = 0 := by decide +kernel
  rw [readsAs_iff, none] at read
  apply nonzero
  rw [units_eq, ← read]
  rfl

/-- A neighbour that is found is read as the number. -/
theorem reads_of_neighbour? {reads : Nat → Bool} {nearerAbove : Bool} {below point : Nat}
    (found : neighbour? reads nearerAbove below = some point) : reads point := by
  unfold neighbour? at found
  -- Both neighbours may be read as the number, and then the nearer one is taken.
  split at found
  next lower upper =>
    split at found
    · cases found
      exact upper
    · cases found
      exact lower
  next lower _ =>
    cases found
    exact lower
  next _ upper =>
    cases found
    exact upper
  next => cases found

/-- So is a point of a grid. -/
theorem readsAs_of_gridPoint? {tie : Tie} {spacing significand : Nat}
    (found : x.gridPoint? tie spacing = some significand) :
    x.readsAs (significand * spacing) := by
  unfold gridPoint? at found
  dsimp only at found
  have read := reads_of_neighbour? found
  exact read

/-- So it is near the number. -/
theorem near_of_gridPoint? {tie : Tie} {dropped significand : Nat} (nonzero : x.units ≠ 0)
    (found : x.gridPoint? tie (Nat.pow 10 dropped) = some significand) :
    x.Near ⟨significand, (dropped : Int) - finestPlace⟩ := by
  have read : x.readsAs (significand * 10 ^ dropped) := readsAs_of_gridPoint? found
  have places : (⟨significand, (dropped : Int) - finestPlace⟩ : Decimal).scaled =
      significand * 10 ^ dropped := by
    have kept : ((dropped : Int) - finestPlace + finestPlace).toNat = dropped := by omega
    rw [Decimal.scaled, kept]
  refine ⟨Nat.pos_of_ne_zero ?_, ?_, .inl (places ▸ read)⟩
  · rintro rfl
    rw [Nat.zero_mul] at read
    exact not_readsAs_zero nonzero read
  · show -(finestPlace : Int) ≤ (dropped : Int) - finestPlace
    omega

/-- The last multiple of the finest place below a number is near it. -/
theorem near_scaledDown (nonzero : x.units ≠ 0) : x.Near ⟨x.scaledDown, -finestPlace⟩ := by
  have whole : (⟨x.scaledDown, -finestPlace⟩ : Decimal).scaled = x.scaledDown := by
    have none : (-(finestPlace : Int) + finestPlace).toNat = 0 := by omega
    rw [Decimal.scaled, none, Nat.pow_zero, Nat.mul_one]
  refine ⟨?_, Int.le_refl _, .inr whole⟩
  -- Even the least unit is more than the finest place.
  have finer : unitsPerOne ≤ 10 ^ finestPlace := by decide +kernel
  have product : unitsPerOne ≤ x.units * 10 ^ finestPlace :=
    Nat.le_trans finer (Nat.le_mul_of_pos_left _ (Nat.pos_of_ne_zero nonzero))
  show 0 < x.scaledDown
  rw [scaledDown, pow_finestPlace]
  exact Nat.div_pos product unitsPerOne_pos

/-- What is found on grids of points near a number is near it. -/
theorem near_shortestFrom {grid : Nat → Option Nat} {finest : Decimal} {places : Nat}
    (points : ∀ dropped significand, grid dropped = some significand →
      x.Near ⟨significand, (dropped : Int) - finestPlace⟩)
    (last : x.Near finest) (remaining count : Nat) :
    x.Near (shortestFrom grid finest places remaining count) := by
  -- The induction is on the grids still to come.
  induction remaining generalizing count with
  | zero => exact last
  | succ remaining ih =>
    unfold shortestFrom
    dsimp only
    split
    next significand found => exact (points _ _ found).dropZero
    next => exact ih (count + 1)

/-- The shortest digits of a number are near it. -/
theorem near_shortest (tie : Tie) (nonzero : x.units ≠ 0) : x.Near (x.shortest tie) := by
  rw [shortest, if_neg nonzero]
  exact near_shortestFrom (fun _ _ found => near_of_gridPoint? nonzero found)
    (near_scaledDown nonzero) _ _

/-- A decimal near a number below the three largest is itself below these. -/
theorem Near.scaled_lt (near : x.Near d) (low : x.magnitude < infinityBits - 3) :
    d.scaled * unitsPerOne < 10 ^ finestPlace * 2 ^ topScale * (2 ^ 53 - 3) := by
  have positive : 0 < 10 ^ finestPlace := Nat.pow_pos (by decide)
  rcases near.scaled with read | down
  · refine lt_of_nearestBits_lt positive ?_
    rw [readsAs_iff.mp read]
    exact low
  · have below : x.scaledDown * unitsPerOne ≤ x.units * 10 ^ finestPlace := by
      rw [scaledDown, pow_finestPlace]
      exact Nat.div_mul_le_self (x.units * 10 ^ finestPlace) unitsPerOne
    have product := Nat.mul_lt_mul_of_pos_right (units_lt low) positive
    rw [down]
    calc x.scaledDown * unitsPerOne
        ≤ x.units * 10 ^ finestPlace := below
      _ < 2 ^ topScale * (2 ^ 53 - 3) * 10 ^ finestPlace := product
      _ = 10 ^ finestPlace * 2 ^ topScale * (2 ^ 53 - 3) := by ring

/-- A decimal with a natural exponent that is not above another one, which is below the three
largest numbers in multiples of the finest place, is below these itself. -/
theorem lt_of_scaled_lt {kept dropped spelled power : Nat} {exponent : Int}
    (raised : exponent + dropped = (power : Int)) (fine : -(finestPlace : Int) ≤ exponent)
    (less : kept * 10 ^ dropped ≤ spelled)
    (low : spelled * 10 ^ (exponent + finestPlace).toNat * unitsPerOne <
      10 ^ finestPlace * 2 ^ topScale * (2 ^ 53 - 3)) :
    kept * 10 ^ power * unitsPerOne < 2 ^ topScale * (2 ^ 53 - 3) := by
  have places : power + finestPlace = dropped + (exponent + finestPlace).toNat := by omega
  refine Nat.lt_of_mul_lt_mul_right (a := 10 ^ finestPlace) ?_
  calc kept * 10 ^ power * unitsPerOne * 10 ^ finestPlace
      = kept * 10 ^ (power + finestPlace) * unitsPerOne := by
        rw [Nat.pow_add]
        ring
    _ = kept * 10 ^ dropped * 10 ^ (exponent + finestPlace).toNat * unitsPerOne := by
        rw [places, Nat.pow_add, ← Nat.mul_assoc]
    _ ≤ spelled * 10 ^ (exponent + finestPlace).toNat * unitsPerOne :=
        Nat.mul_le_mul_right _ (Nat.mul_le_mul_right _ less)
    _ < 10 ^ finestPlace * 2 ^ topScale * (2 ^ 53 - 3) := low
    _ = 2 ^ topScale * (2 ^ 53 - 3) * 10 ^ finestPlace := by ring

end Binary64

end CallChain

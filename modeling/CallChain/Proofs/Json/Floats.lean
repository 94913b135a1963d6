import CallChain.Proofs.Json.Numerals
import CallChain.Proofs.Number.Shortest

/-! Texts of floating-point numbers: the text of every finite one is a numeral in range. -/

namespace CallChain.Json

section Digits

variable {front back : List Char} {significand kept : Nat}

/-- Digits end where something else follows. -/
theorem digits_append_of_all (all : ∀ c ∈ front, c.isDigit)
    (ends : ∀ c ∈ back.head?, c.isDigit = false) : digits (front ++ back) = (front, back) := by
  have stop : back.takeWhile Char.isDigit = [] ∧ back.dropWhile Char.isDigit = back := by
    cases back with
    | nil => exact ⟨rfl, rfl⟩
    | cons c back =>
      have other := ends c rfl
      exact ⟨by simp [other], by simp [other]⟩
  rw [digits, List.takeWhile_append_of_pos all, List.dropWhile_append_of_pos all, stop.1, stop.2,
    List.append_nil]

/-- The digits of a number spell it. -/
theorem digitsValue_toDigits (n : Nat) : digitsValue (Nat.toDigits 10 n) = n := by
  induction n using Nat.strongRecOn with
  | ind n ih =>
    -- The last digit comes on top of ten times the number that the others spell.
    have last : (n % 10).digitChar.toNat - '0'.toNat = n % 10 :=
      Nat.toNat_digitChar_sub_48_of_lt_ten (Nat.mod_lt n (by decide))
    by_cases short : n < 10
    · have own : n % 10 = n := Nat.mod_eq_of_lt short
      rw [own] at last
      rw [Nat.toDigits_of_lt_base short, digitsValue, List.foldl_cons, List.foldl_nil, last,
        Nat.zero_mul, Nat.zero_add]
    · have front := ih (n / 10) (by omega)
      rw [Nat.toDigits_of_base_le (by decide) (by omega), digitsValue, List.foldl_append,
        ← digitsValue, front, List.foldl_cons, List.foldl_nil, last]
      omega

/-- A digit stands for a number below ten. -/
theorem digit_lt {c : Char} (digit : c.isDigit) : c.toNat - '0'.toNat < 10 := by
  have bounds : '0'.toNat ≤ c.toNat ∧ c.toNat ≤ '9'.toNat := by
    simpa [Char.isDigit, UInt32.le_iff_toNat_le] using digit
  have zero : '0'.toNat = 48 := rfl
  have nine : '9'.toNat = 57 := rfl
  omega

/-- What is kept of digits stays in range. -/
theorem absorb_le (fits : significand ≤ largestSignificand) :
    (absorb significand back).1 ≤ largestSignificand := by
  induction back generalizing significand with
  | nil => exact fits
  | cons digit back ih =>
    unfold absorb
    dsimp only
    split
    next longer => exact ih longer
    next => exact fits

/-- No more digits are left over than there are. -/
theorem length_absorb_le : (absorb significand back).2.length ≤ back.length := by
  induction back generalizing significand with
  | nil => exact Nat.le_refl _
  | cons digit back ih =>
    unfold absorb
    dsimp only
    split
    next => exact Nat.le_succ_of_le ih
    next => exact Nat.le_refl _

/-- Digits after others only add to what these spell. -/
theorem mul_le_foldl : significand * 10 ^ back.length ≤
    back.foldl (fun value digit => value * 10 + (digit.toNat - '0'.toNat)) significand := by
  induction back generalizing significand with
  | nil => simp
  | cons digit back ih =>
    have tenfold : significand * 10 ^ (back.length + 1) = significand * 10 * 10 ^ back.length := by
      rw [Nat.pow_succ', Nat.mul_assoc]
    rw [List.length_cons, tenfold, List.foldl_cons]
    exact Nat.le_trans (Nat.mul_le_mul_right _ (Nat.le_add_right _ _)) ih

/-- What is kept of digits is not more than what all of them spell. -/
theorem absorb_mul_le :
    (absorb significand back).1 * 10 ^ (absorb significand back).2.length ≤
      back.foldl (fun value digit => value * 10 + (digit.toNat - '0'.toNat)) significand := by
  induction back generalizing significand with
  | nil => simp [absorb]
  | cons digit back ih =>
    unfold absorb
    dsimp only
    split
    next => exact ih
    next => exact mul_le_foldl

/-- A few digits are all kept. -/
theorem absorb_eq_of_length_le {places : Nat} (all : ∀ c ∈ front, c.isDigit)
    (low : significand < 10 ^ places) (few : front.length + places ≤ 19) :
    ∃ kept, absorb significand front = (kept, []) ∧ kept ≤ largestSignificand := by
  have range : 10 ^ 19 ≤ largestSignificand := by decide
  induction front generalizing significand places with
  | nil =>
    have below : 10 ^ places ≤ 10 ^ 19 := Nat.pow_le_pow_right (by decide) (by simpa using few)
    exact ⟨significand, rfl, by omega⟩
  | cons digit front ih =>
    rw [List.length_cons] at few
    have last := digit_lt (all digit (by simp))
    have longer : significand * 10 + (digit.toNat - '0'.toNat) < 10 ^ (places + 1) := by
      rw [Nat.pow_succ]
      omega
    have below : 10 ^ (places + 1) ≤ 10 ^ 19 := Nat.pow_le_pow_right (by decide) (by omega)
    unfold absorb
    dsimp only
    rw [if_pos (by omega)]
    exact ih (fun c member => all c (by simp [member])) longer (by omega)

end Digits

section Numerals

variable {whole fraction power rest : List Char}

/-- Digits may stand before a point: there are some, and several do not start with a zero. -/
structure IsWhole (whole : List Char) : Prop where
  all : ∀ c ∈ whole, c.isDigit
  filled : whole ≠ []
  leading : whole.head? = some '0' → whole.length = 1

/-- They are read as such. -/
theorem IsWhole.whole?_append (isWhole : IsWhole whole)
    (ends : ∀ c ∈ rest.head?, c.isDigit = false) : whole? (whole ++ rest) = some (whole, rest) := by
  unfold whole?
  rw [digits_append_of_all isWhole.all ends]
  match whole, isWhole with
  | [], isWhole => exact absurd rfl isWhole.filled
  | [digit], _ => rfl
  | first :: second :: others, isWhole =>
    have nonzero : first ≠ '0' := by
      rintro rfl
      simpa using isWhole.leading rfl
    simp [nonzero]

/-- Digits behind a point are read as the fraction. -/
theorem fraction?_append_of_all (all : ∀ c ∈ fraction, c.isDigit) (filled : fraction ≠ [])
    (ends : ∀ c ∈ rest.head?, c.isDigit = false) :
    fraction? ('.' :: (fraction ++ rest)) = some (some fraction, rest) := by
  simp only [fraction?, digits_append_of_all all ends]

/-- Digits with a point and no exponent. -/
theorem unsigned?_pointed (negative : Bool) (isWhole : IsWhole whole)
    (all : ∀ c ∈ fraction, c.isDigit) (filled : fraction ≠ []) :
    unsigned? negative (whole ++ '.' :: fraction) =
      some (⟨negative, whole, fraction, none, true⟩, []) := by
  have first : whole? (whole ++ '.' :: fraction) = some (whole, '.' :: fraction) :=
    isWhole.whole?_append (by simp)
  have second : fraction? ('.' :: (fraction ++ [])) = some (some fraction, []) :=
    fraction?_append_of_all all filled (by simp)
  rw [List.append_nil] at second
  simp [unsigned?, first, second, exponent?]

/-- Digits with an exponent. -/
theorem unsigned?_powered (negative : Bool) (isWhole : IsWhole whole) {exponent : Int}
    (read : exponent? ('e' :: power) = some (some exponent, [])) :
    unsigned? negative (whole ++ 'e' :: power) =
      some (⟨negative, whole, [], some exponent, true⟩, []) := by
  have first : whole? (whole ++ 'e' :: power) = some (whole, 'e' :: power) :=
    isWhole.whole?_append (by simp)
  simp [unsigned?, first, fraction?, read]

/-- Digits with a point and an exponent. -/
theorem unsigned?_pointed_powered (negative : Bool) (isWhole : IsWhole whole)
    (all : ∀ c ∈ fraction, c.isDigit) (filled : fraction ≠ []) {exponent : Int}
    (read : exponent? ('e' :: power) = some (some exponent, [])) :
    unsigned? negative (whole ++ '.' :: (fraction ++ 'e' :: power)) =
      some (⟨negative, whole, fraction, some exponent, true⟩, []) := by
  have first : whole? (whole ++ '.' :: (fraction ++ 'e' :: power)) =
      some (whole, '.' :: (fraction ++ 'e' :: power)) := isWhole.whole?_append (by simp)
  have second : fraction? ('.' :: (fraction ++ 'e' :: power)) =
      some (some fraction, 'e' :: power) := fraction?_append_of_all all filled (by simp)
  simp [unsigned?, first, second, read]

/-- The digits of a number are read as an exponent behind its sign. -/
theorem exponentDigits?_toDigits (negative : Bool) (n : Nat) :
    exponentDigits? negative (Nat.toDigits 10 n) =
      some (some (if negative then -(n : Int) else n), []) := by
  have all : ∀ c ∈ Nat.toDigits 10 n, c.isDigit := fun c member =>
    Nat.isDigit_of_mem_toDigits (by decide) (by decide) member
  have split : digits (Nat.toDigits 10 n ++ []) = (Nat.toDigits 10 n, []) :=
    digits_append_of_all all (by simp)
  rw [List.append_nil] at split
  have value := digitsValue_toDigits n
  unfold exponentDigits?
  rw [split]
  cases written : Nat.toDigits 10 n with
  | nil => exact absurd written Nat.toDigits_ne_nil
  | cons digit others =>
    rw [written] at value
    simp only [value]

/-- An exponent is read as it is written, with a sign. -/
theorem exponent?_signed (power : Int) :
    exponent? ('e' :: (if power < 0 then ['-'] else ['+']) ++ Nat.toDigits 10 power.natAbs) =
      some (some power, []) := by
  by_cases below : power < 0
  · have same : -(power.natAbs : Int) = power := by omega
    have read := exponentDigits?_toDigits true power.natAbs
    rw [if_pos rfl, same] at read
    simpa [exponent?, below] using read
  · have same : (power.natAbs : Int) = power := by omega
    have read := exponentDigits?_toDigits false power.natAbs
    rw [if_neg (by decide), same] at read
    simpa [exponent?, below] using read

end Numerals

end CallChain.Json

namespace CallChain.Decimal

open Json

variable {d : Decimal}

/-- The digits of a decimal are digits, and there are some. -/
theorem digits_ne_nil (d : Decimal) : d.digits ≠ [] := Nat.toDigits_ne_nil

/-- Each of them is a digit. -/
theorem isDigit_of_mem_digits {c : Char} (member : c ∈ d.digits) : c.isDigit :=
  Nat.isDigit_of_mem_toDigits (by decide) (by decide) member

/-- So are they among zeros. -/
theorem isDigit_of_mem_or {c : Char} {zeros : Nat}
    (member : c ∈ d.digits ∨ c ∈ List.replicate zeros '0') : c.isDigit := by
  rcases member with digit | zero
  · exact isDigit_of_mem_digits digit
  · rw [List.eq_of_mem_replicate zero]
    rfl

/-- Below one, all digits follow the point, after zeros. -/
theorem plain_of_neg (below : d.leading < 0) :
    ∃ fraction, d.plain = ['0'] ++ '.' :: fraction ∧ (∀ c ∈ fraction, c.isDigit) ∧
      fraction ≠ [] := by
  refine ⟨List.replicate (-d.leading - 1).toNat '0' ++ d.digits, ?_, ?_, ?_⟩
  · simp [plain, below]
  · intro c member
    exact isDigit_of_mem_or (List.mem_append.mp member).symm
  · simp [digits_ne_nil]

/-- From one on, the digits are filled up with zeros as far as the point, and behind it there is a
zero if there is no digit left. -/
theorem plain_of_nonneg (above : 0 ≤ d.leading) (positive : d = ⟨0, 0⟩ ∨ 0 < d.significand) :
    ∃ whole fraction, d.plain = whole ++ '.' :: fraction ∧ IsWhole whole ∧
      whole.length = d.leading.toNat + 1 ∧ (∀ c ∈ fraction, c.isDigit) ∧ fraction ≠ [] := by
  obtain ⟨count, counted⟩ : ∃ count, count = d.leading.toNat + 1 := ⟨_, rfl⟩
  obtain ⟨padded, filled⟩ : ∃ padded,
    padded = d.digits ++ List.replicate (count - d.digits.length) '0' := ⟨_, rfl⟩
  have shape : d.plain = padded.take count ++
      '.' :: (if (padded.drop count).isEmpty then ['0'] else padded.drop count) := by
    simp [plain, Int.not_lt.mpr above, counted, filled]
  have all : ∀ c ∈ padded, c.isDigit := by
    intro c member
    rw [filled] at member
    exact isDigit_of_mem_or (List.mem_append.mp member)
  have length : (padded.take count).length = count := by
    rw [List.length_take, filled, List.length_append, List.length_replicate]
    omega
  have first : (padded.take count).head? = d.digits.head? := by
    cases written : d.digits with
    | nil => exact absurd written d.digits_ne_nil
    | cons digit others => simp [filled, counted, written]
  have isWhole : IsWhole (padded.take count) := by
    refine ⟨fun c member => all c (List.mem_of_mem_take member), ?_, ?_⟩
    · intro none
      rw [none] at first
      exact d.digits_ne_nil (List.head?_eq_none_iff.mp first.symm)
    · -- Only the digits of zero start with a zero.
      intro zero
      rw [first] at zero
      rcases positive with rfl | positive
      · have one : (⟨0, 0⟩ : Decimal).leading = 0 := rfl
        rw [length, counted, one]
        rfl
      · exact absurd zero (head?_toDigits positive)
  refine ⟨_, _, shape, isWhole, by rw [length, counted], ?_, ?_⟩
  · split
    next => simp
    next => exact fun c member => all c (List.mem_of_mem_drop member)
  · split
    next => simp
    next left => simpa using left

/-- A decimal without an exponent has digits on both sides of a point. -/
theorem plain_eq (positive : d = ⟨0, 0⟩ ∨ 0 < d.significand) :
    ∃ whole fraction, d.plain = whole ++ '.' :: fraction ∧ IsWhole whole ∧
      whole.length ≤ d.leading.toNat + 1 ∧ (∀ c ∈ fraction, c.isDigit) ∧ fraction ≠ [] := by
  by_cases below : d.leading < 0
  · obtain ⟨fraction, shape, all, filled⟩ := plain_of_neg below
    have isWhole : IsWhole ['0'] := ⟨by simp, by simp, fun _ => rfl⟩
    exact ⟨['0'], fraction, shape, isWhole, by simp, all, filled⟩
  · obtain ⟨whole, fraction, shape, isWhole, length, all, filled⟩ :=
      plain_of_nonneg (Int.not_lt.mp below) positive
    exact ⟨whole, fraction, shape, isWhole, by omega, all, filled⟩

/-- A decimal with an exponent has one digit before the point. -/
theorem unsigned?_scientific (negative : Bool) (d : Decimal) :
    ∃ digit fraction, d.digits = digit :: fraction ∧
      unsigned? negative (d.scientific ['+']) =
        some (⟨negative, [digit], fraction, some d.leading, true⟩, []) := by
  obtain ⟨power, written⟩ : ∃ power, power =
      (if d.leading < 0 then ['-'] else ['+']) ++ Nat.toDigits 10 d.leading.natAbs := ⟨_, rfl⟩
  have read : exponent? ('e' :: power) = some (some d.leading, []) :=
    written ▸ exponent?_signed d.leading
  have all : ∀ c ∈ d.digits, c.isDigit := fun c member => isDigit_of_mem_digits member
  match spelled : d.digits with
  | [] => exact absurd spelled d.digits_ne_nil
  | digit :: fraction =>
    rw [spelled] at all
    have isWhole : IsWhole [digit] := ⟨fun c member => all c (by simp_all), by simp, fun _ => rfl⟩
    refine ⟨digit, fraction, rfl, ?_⟩
    -- A single digit has no point behind it.
    cases fraction with
    | nil =>
      have shape : d.scientific ['+'] = [digit] ++ 'e' :: power := by
        simp [scientific, spelled, written]
      rw [shape]
      exact unsigned?_powered negative isWhole read
    | cons second others =>
      have shape : d.scientific ['+'] = [digit] ++ '.' :: (second :: others ++ 'e' :: power) := by
        simp [scientific, spelled, written]
      rw [shape]
      exact unsigned?_pointed_powered negative isWhole (fun c member => all c (by simp_all))
        (by simp) read

end CallChain.Decimal

namespace CallChain.Json

variable {whole fraction : List Char} {x : Binary64}

/-- A numeral has a number when its digits, as far as they are kept, are in range. -/
theorem isSome_float?_iff {negative : Bool} {exponent : Option Int} {start : Nat}
    (absorbed : absorb 0 whole = (start, [])) :
    (⟨negative, whole, fraction, exponent, true⟩ : Numeral).float?.isSome =
      (Binary64.ofScaled? (absorb start fraction).1 (exponent.getD 0 -
        (fraction.length - (absorb start fraction).2.length : Nat))).isSome := by
  unfold Numeral.float?
  simp only [absorbed, List.length_nil]
  cases negative <;> simp

/-- A numeral with few digits before its point and no positive exponent is in range. -/
theorem isSome_float?_of_nonpos {negative : Bool} {exponent : Option Int}
    (all : ∀ c ∈ whole, c.isDigit) (few : whole.length ≤ 19) (small : exponent.getD 0 ≤ 0) :
    (⟨negative, whole, fraction, exponent, true⟩ : Numeral).float?.isSome := by
  have none : 0 < 10 ^ 0 := by decide
  obtain ⟨start, absorbed, fits⟩ := absorb_eq_of_length_le all none few
  have range : largestSignificand < 2 ^ 64 := by decide
  have kept : (absorb start fraction).1 ≤ largestSignificand := absorb_le fits
  rw [isSome_float?_iff absorbed]
  exact Binary64.isSome_ofScaled?_of_nonpos (by omega) (by omega)

/-- A numeral with one digit before its point is in range if it spells less than the three largest
numbers. -/
theorem isSome_float?_of_lt {negative : Bool} {digit : Char} {exponent : Int}
    (own : digit.isDigit) (fine : -(Binary64.finestPlace : Int) ≤ exponent)
    (low : digitsValue (digit :: fraction) * 10 ^ (exponent + Binary64.finestPlace).toNat *
      Binary64.unitsPerOne < 10 ^ Binary64.finestPlace * 2 ^ Binary64.topScale * (2 ^ 53 - 3)) :
    (⟨negative, [digit], fraction, some (exponent + fraction.length), true⟩ :
      Numeral).float?.isSome := by
  have none : 0 < 10 ^ 0 := by decide
  have single : ∀ c ∈ [digit], c.isDigit := by simpa using own
  obtain ⟨start, absorbed, fits⟩ := absorb_eq_of_length_le single none (by simp)
  have range : largestSignificand < 2 ^ 64 := by decide
  have kept : (absorb start fraction).1 ≤ largestSignificand := absorb_le fits
  have ignored : (absorb start fraction).2.length ≤ fraction.length := length_absorb_le
  have whole : absorb 0 (digit :: fraction) = absorb start fraction := absorb_append absorbed
  have spelled : (absorb start fraction).1 * 10 ^ (absorb start fraction).2.length ≤
      digitsValue (digit :: fraction) := by
    rw [← whole]
    exact absorb_mul_le
  rw [isSome_float?_iff absorbed]
  generalize absorb start fraction = read at kept ignored spelled
  -- Digits that are not kept raise the exponent by as much as they lower the significand.
  have exact : (some (exponent + fraction.length)).getD 0 -
      (fraction.length - read.2.length : Nat) = exponent + read.2.length := by
    rw [Option.getD_some]
    omega
  rw [exact]
  by_cases positive : 0 < exponent + read.2.length
  · obtain ⟨power, same⟩ : ∃ power : Nat, exponent + read.2.length = (power : Int) :=
      ⟨(exponent + read.2.length).toNat, by omega⟩
    rw [same]
    exact Binary64.isSome_ofScaled?_of_lt (by omega)
      (Binary64.lt_of_scaled_lt same fine spelled low)
  · exact Binary64.isSome_ofScaled?_of_nonpos (by omega) (by omega)

/-- A sign may stand in front of a numeral. -/
theorem numeral?_signed {negative : Bool} {text : List Char} {numeral : Numeral}
    (read : unsigned? negative text = some (numeral, [])) :
    numeral? ((if negative then ['-'] else []) ++ text) = some (numeral, []) := by
  cases negative with
  | true => exact read
  | false =>
    -- No digits start with the sign.
    have unsigned : text.head? ≠ some '-' := by
      intro first
      obtain ⟨more, rfl⟩ := List.head?_eq_some_iff.mp first
      simp [unsigned?, whole?, digits] at read
    exact (numeral?_of_ne unsigned).trans read

/-- The text of a finite number is a sign and its shortest digits, with an exponent if that is
large or small. -/
theorem writeNumber_float (finite : x.isFinite) :
    writeNumber (.float x) = (if x.isNegative then ['-'] else []) ++
      if x.units = 0 ∨ -5 ≤ (x.shortest .toEven).leading ∧ (x.shortest .toEven).leading ≤ 15
      then (x.shortest .toEven).plain else (x.shortest .toEven).scientific ['+'] := by
  have number : x.isNaN = false := by
    rw [Binary64.isFinite, bne_iff_ne] at finite
    simp [Binary64.isNaN, finite]
  rw [writeNumber, if_pos finite, Binary64.write, Binary64.signed, number]
  simp only [Bool.false_eq_true, if_false, finite, if_true, String.toList_ofList]
  simp only [Bool.or_eq_true, Bool.and_eq_true, decide_eq_true_eq]
  rfl

/-- The text of a finite number is a numeral of a floating-point number, and one in range unless it
is among the three largest. -/
theorem exists_numeral? (finite : x.isFinite) : ∃ numeral : Numeral, numeral.pointed ∧
    numeral? (writeNumber (.float x)) = some (numeral, []) ∧
    (x.magnitude < Binary64.infinityBits - 3 → numeral.float?.isSome) := by
  have nearest : x.shortest .toEven = ⟨0, 0⟩ ∨ x.Near (x.shortest .toEven) := by
    by_cases zero : x.units = 0
    · exact .inl (by rw [Binary64.shortest, if_pos zero])
    · exact .inr (Binary64.near_shortest .toEven zero)
  rw [writeNumber_float finite]
  by_cases layout : x.units = 0 ∨
      -5 ≤ (x.shortest .toEven).leading ∧ (x.shortest .toEven).leading ≤ 15
  · -- Without an exponent there are at most sixteen digits before the point.
    have few : (x.shortest .toEven).leading ≤ 15 := by
      rcases layout with zero | ⟨_, few⟩
      · rw [Binary64.shortest, if_pos zero]
        decide
      · exact few
    obtain ⟨whole, fraction, shape, isWhole, length, all, filled⟩ :=
      Decimal.plain_eq (nearest.imp_right Binary64.Near.positive)
    have read := unsigned?_pointed x.isNegative isWhole all filled
    rw [← shape] at read
    rw [if_pos layout]
    refine ⟨_, rfl, numeral?_signed read, fun _ => ?_⟩
    exact isSome_float?_of_nonpos isWhole.all (by omega) (by simp)
  · obtain ⟨digit, fraction, spelled, read⟩ :=
      Decimal.unsigned?_scientific x.isNegative (x.shortest .toEven)
    rw [if_neg layout]
    refine ⟨_, rfl, numeral?_signed read, fun low => ?_⟩
    have near : x.Near (x.shortest .toEven) := by
      refine nearest.resolve_left fun zero => layout ?_
      rw [zero]
      exact .inr (by decide)
    have value : digitsValue (digit :: fraction) = (x.shortest .toEven).significand := by
      rw [← spelled]
      exact digitsValue_toDigits _
    have power : (x.shortest .toEven).leading =
        (x.shortest .toEven).exponent + fraction.length := by
      rw [Decimal.leading, spelled, List.length_cons]
      omega
    have own : digit.isDigit := Decimal.isDigit_of_mem_digits (d := x.shortest .toEven)
      (by simp [spelled])
    rw [power]
    refine isSome_float?_of_lt own near.fine ?_
    rw [value]
    exact near.scaled_lt low

/-- Rounding might lead beyond the three largest numbers when these are read, but it does not. -/
theorem isSome_wholeNumber?_largest : ∀ negative : Bool, ∀ below < 3,
    (wholeNumber? (writeNumber (.float
      (.ofMagnitude negative (Binary64.infinityBits - 1 - below))))).isSome := by
  decide +kernel

/-- The text of a finite number is a number again. -/
theorem exists_wholeNumber?_float (finite : x.isFinite) :
    ∃ y, wholeNumber? (writeNumber (.float x)) = some (.float y) := by
  obtain ⟨numeral, pointed, found, inRange⟩ := exists_numeral? finite
  have value : wholeNumber? (writeNumber (.float x)) = numeral.float?.map Number.float := by
    simp [wholeNumber?, found, Numeral.value?, pointed]
  have valued : numeral.float?.isSome := by
    by_cases low : x.magnitude < Binary64.infinityBits - 3
    · exact inRange low
    · have high := Binary64.isFinite_iff.mp finite
      have own := isSome_wholeNumber?_largest x.isNegative
        (Binary64.infinityBits - 1 - x.magnitude) (by omega)
      have same : Binary64.infinityBits - 1 - (Binary64.infinityBits - 1 - x.magnitude) =
          x.magnitude := by omega
      rw [same, Binary64.ofMagnitude_magnitude, value, Option.isSome_map] at own
      exact own
  obtain ⟨y, same⟩ := Option.isSome_iff_exists.mp valued
  exact ⟨y, by rw [value, same, Option.map_some]⟩

/-- Numerals stand for finite numbers only. -/
theorem isFinite_of_value? {numeral : Numeral} (read : numeral.value? = some (.float x)) :
    x.isFinite := by
  have own : numeral.float? = some x := by
    -- Whichever case is that of a float, it is what the numeral is read as.
    unfold Numeral.value? at read
    dsimp only at read
    repeat' split at read
    all_goals simp at read
    all_goals exact read
  unfold Numeral.float? at own
  dsimp only at own
  split at own
  · obtain ⟨y, scaled, rfl⟩ := Option.map_eq_some_iff.mp own
    have finite := Binary64.isFinite_of_ofScaled? scaled
    rw [Binary64.isFinite_iff, Binary64.magnitude_negate]
    exact Binary64.isFinite_iff.mp finite
  · exact Binary64.isFinite_of_ofScaled? own

end CallChain.Json

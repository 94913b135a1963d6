import CallChain.Json.Reader
import CallChain.Json.Writer
import Mathlib.Data.List.TakeWhile

/-! Numerals: where they end in a text, and which numbers are read back from theirs. -/

namespace CallChain.Json

/-- Whether a character may follow others inside a numeral. -/
def continuesNumeral (c : Char) : Bool :=
  c.isDigit || c == '.' || c == 'e' || c == 'E'

/-- Whether a numeral before a text ends where the text starts. -/
def EndsNumeral (rest : List Char) : Prop :=
  ∀ c ∈ rest.head?, continuesNumeral c = false

/-- The number of a text that is one numeral. -/
def wholeNumber? (text : List Char) : Option Number := do
  let (numeral, rest) ← numeral? text
  if rest.isEmpty then numeral.value? else none

/-- Whether a number is read back from what is written for it.

Integers are. Of the floating-point numbers the non-finite ones, which are written as null, are
not, nor are those whose digits the reader rounds to a neighbour. -/
def Number.ReadsBack (number : Number) : Prop :=
  wholeNumber? (writeNumber number) = some number

instance (number : Number) : Decidable number.ReadsBack :=
  inferInstanceAs (Decidable (wholeNumber? (writeNumber number) = some number))

/-- The numeral at the start of a text with its sign already read. -/
def unsigned? (negative : Bool) (text : List Char) : Option (Numeral × List Char) := do
  let (whole, rest) ← whole? text
  let (fraction, rest) ← fraction? rest
  let (exponent, rest) ← exponent? rest
  return (⟨negative, whole, fraction.getD [], exponent, fraction.isSome || exponent.isSome⟩, rest)

/-- A numeral may start with a minus sign. -/
theorem numeral?_minus (text : List Char) : numeral? ('-' :: text) = unsigned? true text := rfl

/-- A numeral without one is not negative. -/
theorem numeral?_of_ne {text : List Char} (unsigned : text.head? ≠ some '-') :
    numeral? text = unsigned? false text := by
  cases text with
  | nil => rfl
  | cons c text =>
    have other : c ≠ '-' := by simpa using unsigned
    simp [numeral?, unsigned?, other]

/-- Without a point there is no fraction. -/
theorem fraction?_of_ne {text : List Char} (pointless : text.head? ≠ some '.') :
    fraction? text = some (none, text) := by
  cases text with
  | nil => rfl
  | cons c text =>
    have other : c ≠ '.' := by simpa using pointless
    simp [fraction?, other]

/-- Without one of its letters there is no exponent. -/
theorem exponent?_of_ne {text : List Char} (unmarked : ∀ c ∈ text.head?, c ≠ 'e' ∧ c ≠ 'E') :
    exponent? text = some (none, text) := by
  cases text with
  | nil => rfl
  | cons c text =>
    obtain ⟨small, large⟩ := unmarked c rfl
    simp [exponent?, small, large]

section Context

variable {text rest tail : List Char}

/-- What follows a numeral starts with no digit. -/
theorem EndsNumeral.isDigit (ends : EndsNumeral rest) : ∀ c ∈ rest.head?, c.isDigit = false := by
  intro c first
  have other := ends c first
  simp only [continuesNumeral, Bool.or_eq_false_iff] at other
  exact other.1.1.1

/-- What follows a numeral starts with no point. -/
theorem EndsNumeral.ne_point (ends : EndsNumeral rest) : rest.head? ≠ some '.' := by
  intro first
  have other := ends '.' first
  simp [continuesNumeral] at other

/-- What follows a numeral starts with no mark of an exponent. -/
theorem EndsNumeral.ne_mark (ends : EndsNumeral rest) :
    ∀ c ∈ rest.head?, c ≠ 'e' ∧ c ≠ 'E' := by
  intro c first
  have other := ends c first
  constructor <;> rintro rfl <;> simp [continuesNumeral] at other

/-- The digits at the start of a text stay the same when the text is continued. -/
theorem digits_append (ends : EndsNumeral rest) :
    digits (text ++ rest) = ((digits text).1, (digits text).2 ++ rest) := by
  induction text with
  | nil =>
    cases rest with
    | nil => rfl
    | cons c rest =>
      -- Where the text is used up, the digits end because the rest starts with none.
      have stop := ends.isDigit c rfl
      simp [digits, stop]
  | cons c text ih =>
    by_cases digit : c.isDigit
    · simpa [digits, digit] using ih
    · simp [digits, digit]

/-- So do the digits before the point. -/
theorem whole?_append (ends : EndsNumeral rest) {whole : List Char}
    (read : whole? text = some (whole, tail)) :
    whole? (text ++ rest) = some (whole, tail ++ rest) := by
  unfold whole? at read ⊢
  rw [digits_append ends]
  -- The digits decide, and what follows them is only handed on.
  generalize digits text = found at read
  match found with
  | ([], _) => cases read
  | ([digit], _) =>
    cases read
    rfl
  | (first :: second :: others, _) =>
    by_cases zero : first = '0'
    · simp [zero] at read
    · simp only [zero, if_false] at read ⊢
      cases read
      rfl

/-- So do the digits after the point. -/
theorem fraction?_append (ends : EndsNumeral rest) {fraction : Option (List Char)}
    (read : fraction? text = some (fraction, tail)) :
    fraction? (text ++ rest) = some (fraction, tail ++ rest) := by
  by_cases point : text.head? = some '.'
  · obtain ⟨text, rfl⟩ := List.head?_eq_some_iff.mp point
    simp only [fraction?, List.cons_append, digits_append ends] at read ⊢
    generalize digits text = found at read
    match found with
    | ([], _) => cases read
    | (digit :: others, _) =>
      cases read
      rfl
  · -- Without a point in the text, the rest must not bring one.
    have pointless : (text ++ rest).head? ≠ some '.' := by
      cases text with
      | nil => exact ends.ne_point
      | cons c text => exact point
    rw [fraction?_of_ne point] at read
    cases read
    exact fraction?_of_ne pointless

/-- So does an exponent behind its sign. -/
theorem exponentDigits?_append (ends : EndsNumeral rest) {negative : Bool} {exponent : Option Int}
    (read : exponentDigits? negative text = some (exponent, tail)) :
    exponentDigits? negative (text ++ rest) = some (exponent, tail ++ rest) := by
  unfold exponentDigits? at read ⊢
  rw [digits_append ends]
  generalize digits text = found at read
  match found with
  | ([], _) => cases read
  | (digit :: others, _) =>
    cases read
    rfl

/-- So does an exponent. -/
theorem exponent?_append (ends : EndsNumeral rest) {exponent : Option Int}
    (read : exponent? text = some (exponent, tail)) :
    exponent? (text ++ rest) = some (exponent, tail ++ rest) := by
  match text with
  | [] =>
    cases read
    exact exponent?_of_ne ends.ne_mark
  | letter :: text =>
    -- The letter and the sign are in the text already, so only the digits can be continued.
    by_cases marked : letter = 'e' ∨ letter = 'E'
    · match text with
      | [] => simp [exponent?, marked, exponentDigits?, digits] at read
      | c :: text =>
        -- A sign in front of the digits is read before them.
        by_cases plus : c = '+'
        · have signed : ∀ more, exponent? (letter :: c :: more) = exponentDigits? false more := by
            simp [exponent?, marked, plus]
          rw [signed] at read
          exact (signed _).trans (exponentDigits?_append ends read)
        by_cases minus : c = '-'
        · have signed : ∀ more, exponent? (letter :: c :: more) = exponentDigits? true more := by
            simp [exponent?, marked, minus]
          rw [signed] at read
          exact (signed _).trans (exponentDigits?_append ends read)
        · have unsigned : ∀ more,
              exponent? (letter :: c :: more) = exponentDigits? false (c :: more) := by
            simp [exponent?, marked, plus, minus]
          rw [unsigned] at read
          exact (unsigned _).trans (exponentDigits?_append ends read)
    · have unmarked : ∀ more, ∀ c ∈ (letter :: more).head?, c ≠ 'e' ∧ c ≠ 'E' := by
        rintro more c ⟨⟩
        exact not_or.mp marked
      rw [exponent?_of_ne (unmarked text)] at read
      cases read
      exact exponent?_of_ne (unmarked _)

/-- A numeral stays the same when the text goes on with something else. -/
theorem numeral?_append (ends : EndsNumeral rest) {numeral : Numeral}
    (read : numeral? text = some (numeral, tail)) :
    numeral? (text ++ rest) = some (numeral, tail ++ rest) := by
  have unsigned : ∀ {negative text}, unsigned? negative text = some (numeral, tail) →
      unsigned? negative (text ++ rest) = some (numeral, tail ++ rest) := by
    intro negative text read
    -- The parts are read one after the other, and each of them stays the same.
    obtain ⟨⟨whole, after⟩, first, read⟩ := Option.bind_eq_some_iff.mp read
    obtain ⟨⟨fraction, after⟩, second, read⟩ := Option.bind_eq_some_iff.mp read
    obtain ⟨⟨exponent, after⟩, third, read⟩ := Option.bind_eq_some_iff.mp read
    cases read
    simp [unsigned?, whole?_append ends first, fraction?_append ends second,
      exponent?_append ends third]
  match text with
  | [] => cases read
  | c :: text =>
    by_cases minus : c = '-'
    · subst minus
      exact unsigned read
    · have positive : ∀ more, (c :: more).head? ≠ some '-' := by simp [minus]
      rw [numeral?_of_ne (positive text)] at read
      exact (numeral?_of_ne (positive _)).trans (unsigned read)

/-- A numeral starts with a minus sign or a digit. -/
theorem head_of_numeral? {numeral : Numeral} (read : numeral? text = some (numeral, tail)) :
    ∃ c more, text = c :: more ∧ (c = '-' ∨ c.isDigit) := by
  match text with
  | [] => cases read
  | c :: text =>
    refine ⟨c, text, rfl, ?_⟩
    by_cases minus : c = '-'
    · exact .inl minus
    · -- Without a digit in front there are no digits before the point.
      refine .inr (Bool.not_eq_false _ ▸ fun letter => ?_)
      rw [numeral?_of_ne (by simp [minus])] at read
      simp [unsigned?, whole?, digits, letter] at read

end Context

section Integers

/-- Only zero is written with a zero in front. -/
theorem head?_toDigits {n : Nat} (positive : 0 < n) : (Nat.toDigits 10 n).head? ≠ some '0' := by
  induction n using Nat.strongRecOn with
  | ind n ih =>
    by_cases short : n < 10
    · rw [Nat.toDigits_of_lt_base short]
      have digit : n.digitChar ≠ '0' := by
        simp only [ne_eq, Nat.digitChar_eq_zero]
        omega
      simpa using digit
    · -- The last digit is not the first one.
      have shorter := ih (n / 10) (by omega) (by omega)
      rw [Nat.toDigits_of_base_le (by decide) (by omega), List.head?_append]
      cases first : (Nat.toDigits 10 (n / 10)).head? with
      | none => exact absurd (List.head?_eq_none_iff.mp first) Nat.toDigits_ne_nil
      | some c => simpa [first] using shorter

/-- The digits of a number are read as the digits before the point. -/
theorem whole?_toDigits (n : Nat) : whole? (Nat.toDigits 10 n) = some (Nat.toDigits 10 n, []) := by
  have all : ∀ c ∈ Nat.toDigits 10 n, c.isDigit := fun c member =>
    Nat.isDigit_of_mem_toDigits (by decide) (by decide) member
  have split : digits (Nat.toDigits 10 n) = (Nat.toDigits 10 n, []) := by
    rw [digits, List.takeWhile_eq_self_iff.mpr all, List.dropWhile_eq_nil_iff.mpr all]
  unfold whole?
  rw [split]
  -- Several digits that start with a zero would be refused, but no number is written like that.
  match written : Nat.toDigits 10 n with
  | [] => exact absurd written Nat.toDigits_ne_nil
  | [digit] => rfl
  | first :: second :: others =>
    have positive : 0 < n := by
      refine Nat.pos_of_ne_zero ?_
      rintro rfl
      simp at written
    have nonzero := head?_toDigits positive
    rw [written] at nonzero
    have other : first ≠ '0' := by simpa using nonzero
    simp [other]

/-- Digits that are all kept add up before the digits after them. -/
theorem absorb_append {significand kept : Nat} {front back : List Char}
    (read : absorb significand front = (kept, [])) :
    absorb significand (front ++ back) = absorb kept back := by
  induction front generalizing significand with
  | nil =>
    cases read
    rfl
  | cons digit front ih =>
    simp only [List.cons_append, absorb] at read ⊢
    split at read
    next fits => rw [if_pos fits, ih read]
    next => cases read

/-- The digits of a number in range are kept and have its value. -/
theorem absorb_toDigits {n : Nat} (small : n ≤ largestSignificand) :
    absorb 0 (Nat.toDigits 10 n) = (n, []) := by
  induction n using Nat.strongRecOn with
  | ind n ih =>
    -- The last digit comes on top of ten times the number that the others spell.
    have last : ∀ front, 10 * front + n % 10 = n →
        absorb front [(n % 10).digitChar] = (n, []) := by
      intro front whole
      have digit : (n % 10).digitChar.toNat - '0'.toNat = n % 10 :=
        Nat.toNat_digitChar_sub_48_of_lt_ten (Nat.mod_lt n (by decide))
      have sum : front * 10 + n % 10 = n := by omega
      rw [absorb, digit, sum, if_pos small, absorb]
    by_cases short : n < 10
    · have own : n % 10 = n := Nat.mod_eq_of_lt short
      rw [Nat.toDigits_of_lt_base short, ← own]
      simpa [own] using last 0 (by omega)
    · have front := ih (n / 10) (by omega) (by omega)
      rw [Nat.toDigits_of_base_le (by decide) (by omega), absorb_append front]
      exact last _ (by omega)

/-- The digits of a number are a numeral, behind a sign or without one. -/
theorem unsigned?_toDigits (negative : Bool) (n : Nat) :
    unsigned? negative (Nat.toDigits 10 n) =
      some (⟨negative, Nat.toDigits 10 n, [], none, false⟩, []) := by
  simp [unsigned?, whole?_toDigits, fraction?, exponent?]

/-- Natural numbers are read back. -/
theorem natural_readsBack (value : UInt64) : (Number.natural value).ReadsBack := by
  have small : value.toNat ≤ largestSignificand := by
    have bound := value.toNat_lt_size
    simp only [largestSignificand]
    omega
  have unsigned : (Nat.toDigits 10 value.toNat).head? ≠ some '-' := by
    intro first
    have digit := Nat.isDigit_of_mem_toDigits (by decide) (by decide) (List.mem_of_head? first)
    exact absurd digit (by decide)
  -- The numeral has neither a point nor an exponent, so its value stays an integer.
  simp only [Number.ReadsBack, wholeNumber?, writeNumber, numeral?_of_ne unsigned,
    unsigned?_toDigits]
  simp [Numeral.value?, absorb_toDigits small]

/-- Integers below zero are read back. -/
theorem negative_readsBack {value : Int64} (negative : value.toInt < 0) :
    (Number.negative value).ReadsBack := by
  -- The size of the least integer is the largest that a sign may stand before.
  have least : -9223372036854775808 ≤ value.toInt := Int64.le_toInt value
  have small : value.toInt.natAbs ≤ largestSignificand := by
    simp only [largestSignificand, UInt64.size]
    omega
  have below : value.toInt.natAbs ≠ 0 := by omega
  have reached : ¬firstTooLarge < value.toInt.natAbs := by
    simp only [firstTooLarge]
    omega
  have back : Int64.ofInt (-(value.toInt.natAbs : Int)) = value := by
    have same : -(value.toInt.natAbs : Int) = value.toInt := by omega
    rw [same, Int64.ofInt_toInt]
  simp only [Number.ReadsBack, wholeNumber?, writeNumber, numeral?_minus, unsigned?_toDigits,
    Option.bind_eq_bind, Option.bind_some, List.isEmpty_nil, if_true, Numeral.value?,
    absorb_toDigits small, decide_eq_false below, decide_eq_false reached, Bool.not_true,
    Bool.or_false, Bool.false_eq_true, if_false, back]

end Integers

end CallChain.Json

import CallChain.Json.Reader
import CallChain.Json.Writer

/-! Texts between quotes: each is read back from what is written for it. -/

namespace CallChain.Json

/-- A hexadecimal digit is read as its value. -/
theorem hexDigit?_digitChar {n : Nat} (small : n < 16) : hexDigit? (Nat.digitChar n) = some n := by
  have all : ∀ n < 16, hexDigit? (Nat.digitChar n) = some n := by decide
  exact all n small

/-- The escape of a control character spells its code. -/
theorem hexUnit?_digitChar {n : Nat} (control : n < 0x20) :
    hexUnit? '0' '0' (Nat.digitChar (n / 16)) (Nat.digitChar (n % 16)) = some n := by
  have zero : hexDigit? '0' = some 0 := by decide
  have high : n / 16 < 16 := by omega
  have low : n % 16 < 16 := by omega
  have whole : n / 16 * 16 + n % 16 = n := by omega
  simp [hexUnit?, zero, hexDigit?_digitChar high, hexDigit?_digitChar low, whole]

/-- A unit put in front of those that were read. -/
def withUnit (unit : Nat) (read : Option (List Nat × List Char)) : Option (List Nat × List Char) :=
  read.map fun (units, rest) => (unit :: units, rest)

/-- A short escape stands for one unit. -/
theorem stringUnits?_short {letter : Char} {unit : Nat} (known : shortEscape? letter = some unit)
    (rest : List Char) :
    stringUnits? ('\\' :: letter :: rest) = withUnit unit (stringUnits? rest) := by
  -- The one letter with digits after it is not among the short ones.
  have other : letter ≠ 'u' := by
    rintro rfl
    simp [shortEscape?] at known
  rw [stringUnits?.eq_def]
  simp only [Char.reduceEq, if_false, if_true, other, known, withUnit]
  cases stringUnits? rest <;> rfl

/-- What is written for a character is read as its code. -/
theorem stringUnits?_escapeChar (c : Char) (rest : List Char) :
    stringUnits? (escapeChar c ++ rest) = withUnit c.toNat (stringUnits? rest) := by
  unfold escapeChar
  by_cases quote : c = '"'
  · subst quote
    exact stringUnits?_short (by decide) rest
  by_cases backslash : c = '\\'
  · subst backslash
    exact stringUnits?_short (by decide) rest
  simp only [quote, backslash, if_false]
  -- Five of the control characters have letters of their own.
  split
  next code => exact code ▸ stringUnits?_short (by decide) rest
  split
  next code => exact code ▸ stringUnits?_short (by decide) rest
  split
  next code => exact code ▸ stringUnits?_short (by decide) rest
  split
  next code => exact code ▸ stringUnits?_short (by decide) rest
  split
  next code => exact code ▸ stringUnits?_short (by decide) rest
  -- The others are spelled by their codes, and what is no control character stands for itself.
  split
  next control =>
    simp only [List.cons_append, List.nil_append]
    rw [stringUnits?.eq_def]
    simp only [Char.reduceEq, if_false, if_true, hexUnit?_digitChar control, withUnit]
    cases stringUnits? rest <;> rfl
  next visible =>
    simp only [List.cons_append, List.nil_append]
    rw [stringUnits?.eq_def]
    simp only [quote, backslash, visible, if_false, withUnit]
    cases stringUnits? rest <;> rfl

/-- The characters of a text are read as their codes, up to the closing quote. -/
theorem stringUnits?_flatMap (chars rest : List Char) :
    stringUnits? (chars.flatMap escapeChar ++ '"' :: rest) =
      some (chars.map Char.toNat, rest) := by
  -- Each character is read off the front, until the quote ends the text.
  induction chars with
  | nil => rw [List.flatMap_nil, List.nil_append, stringUnits?.eq_def]; rfl
  | cons c chars ih =>
    rw [List.flatMap_cons, List.append_assoc, stringUnits?_escapeChar, ih]
    rfl

/-- No character has the code of a surrogate. -/
theorem isSurrogate_toNat (c : Char) :
    isHighSurrogate c.toNat = false ∧ isLowSurrogate c.toNat = false := by
  have valid : c.toNat < 0xD800 ∨ 0xDFFF < c.toNat ∧ c.toNat < 0x110000 := c.valid
  simp only [isHighSurrogate, isLowSurrogate, Bool.and_eq_false_iff, decide_eq_false_iff_not]
  omega

/-- Codes of characters make up the characters. -/
theorem ofUnits?_toNat (chars : List Char) : ofUnits? (chars.map Char.toNat) = some chars := by
  induction chars with
  | nil => rfl
  | cons c chars ih =>
    -- A unit that is no surrogate is a character by itself.
    obtain ⟨high, low⟩ := isSurrogate_toNat c
    rw [List.map_cons, ofUnits?.eq_def]
    simp [high, low, ih]

/-- A text is read back from between its quotes, whatever follows them. -/
theorem stringBody?_flatMap (text : String) (rest : List Char) :
    stringBody? (text.toList.flatMap escapeChar ++ '"' :: rest) = some (some text, rest) := by
  simp [stringBody?, stringUnits?_flatMap, ofUnits?_toNat]

end CallChain.Json

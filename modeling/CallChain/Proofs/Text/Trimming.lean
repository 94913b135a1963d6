import CallChain.Text.Blank
import Mathlib.Data.List.Basic
import Mathlib.Data.List.TakeWhile

/-! Texts that trimming leaves alone: those with no blank at either end, where digits never are. -/

namespace CallChain.Text

/-- Leading blanks are dropped from every text that has one. -/
theorem dropWhile_isBlank_eq_self_iff {chars : List Char} :
    chars.dropWhile isBlank = chars ↔ ∀ c ∈ chars.head?, isBlank c = false := by
  cases chars with
  | nil => simp
  | cons first rest =>
    cases blank : isBlank first with
    | false => simp [blank]
    | true =>
      -- What is left is no longer than the rest.
      have shorter := (List.dropWhile_suffix isBlank : rest.dropWhile isBlank <:+ rest).length_le
      refine iff_of_false (fun same => ?_) (by simp [blank])
      have lengths := congrArg List.length same
      simp only [List.dropWhile_cons, blank, if_true, List.length_cons] at lengths
      omega

/-- Trimming leaves a text alone exactly when neither of its ends is blank. -/
theorem trimList_eq_self_iff {chars : List Char} :
    trimList chars = chars ↔
      (∀ c ∈ chars.head?, isBlank c = false) ∧ ∀ c ∈ chars.getLast?, isBlank c = false := by
  have front : chars.dropWhile isBlank <:+ chars := List.dropWhile_suffix isBlank
  rw [← List.head?_reverse, ← dropWhile_isBlank_eq_self_iff, ← dropWhile_isBlank_eq_self_iff]
  constructor
  · intro trimmed
    -- Neither end can lose anything, since nothing is lost in all.
    have back : (chars.dropWhile isBlank).reverse.dropWhile isBlank <:+
        (chars.dropWhile isBlank).reverse := List.dropWhile_suffix isBlank
    have lengths := congrArg List.length trimmed
    have backLength := back.length_le
    have frontLength := front.length_le
    simp only [trimList, List.length_reverse] at lengths backLength
    have kept : chars.dropWhile isBlank = chars := front.eq_of_length (by omega)
    refine ⟨kept, ?_⟩
    rw [kept] at back lengths
    exact back.eq_of_length (by rw [lengths, List.length_reverse])
  · rintro ⟨kept, last⟩
    rw [trimList, kept, last, List.reverse_reverse]

/-- A text is trimmed when its characters are. -/
theorem trim_eq_self_iff {text : String} :
    trim text = text ↔ trimList text.toList = text.toList := by
  rw [trim]
  constructor
  · intro trimmed
    simpa using congrArg String.toList trimmed
  · intro trimmed
    rw [trimmed, String.ofList_toList]

/-- What is trimmed has no blank at either end. -/
theorem trimList_trimList (chars : List Char) : trimList (trimList chars) = trimList chars := by
  -- Dropping leading blanks leaves a character that is none in front.
  have front (chars : List Char) : ∀ c ∈ (chars.dropWhile isBlank).head?, isBlank c = false := by
    intro c first
    have kept := List.head?_dropWhile_not isBlank chars
    rw [Option.mem_def.mp first] at kept
    simpa using kept
  rw [trimList_eq_self_iff, trimList, List.head?_reverse, List.getLast?_reverse]
  refine ⟨?_, front _⟩
  intro c last
  -- The text begins as it did before the blanks at its end were dropped.
  have suffix : (chars.dropWhile isBlank).reverse.dropWhile isBlank <:+
      (chars.dropWhile isBlank).reverse := List.dropWhile_suffix isBlank
  obtain ⟨dropped, joined⟩ := suffix
  have filled : (chars.dropWhile isBlank).reverse.dropWhile isBlank ≠ [] := by
    intro empty
    simp [empty] at last
  have same : (chars.dropWhile isBlank).head? = some c := by
    rw [← List.getLast?_reverse, ← joined, List.getLast?_append_of_ne_nil _ filled]
    exact last
  exact front chars c same

/-- Trimming a text twice is trimming it once. -/
theorem trim_trim (text : String) : trim (trim text) = trim text := by
  rw [trim_eq_self_iff, trim, String.toList_ofList, trimList_trimList]

/-- A text is trimmed to nothing when all of it is blank. -/
theorem trim_eq_empty_iff {text : String} :
    trim text = "" ↔ ∀ c ∈ text.toList, isBlank c = true := by
  have emptied : trim text = "" ↔ trimList text.toList = [] := by
    rw [trim, ← String.toList_inj]
    simp
  rw [emptied, trimList, List.reverse_eq_nil_iff, List.dropWhile_eq_nil_iff]
  simp only [List.mem_reverse]
  constructor
  · intro blank
    -- Were any character kept, the first one kept would not be blank.
    refine List.dropWhile_eq_nil_iff.mp ?_
    cases kept : text.toList.dropWhile isBlank with
    | nil => rfl
    | cons first rest =>
      have other := List.head?_dropWhile_not isBlank text.toList
      rw [kept] at blank other
      simp [blank first (by simp)] at other
  · intro blank c member
    exact blank c ((List.dropWhile_suffix isBlank).subset member)

/-- The digits are the characters from 48 to 57. -/
theorem bounds_of_isDigit {c : Char} (digit : c.isDigit) : 48 ≤ c.toNat ∧ c.toNat ≤ 57 := by
  simp only [Char.isDigit, ge_iff_le, Bool.and_eq_true, decide_eq_true_eq,
    UInt32.le_iff_toNat_le] at digit
  exact digit

/-- No digit is blank. -/
theorem isBlank_of_isDigit {c : Char} (digit : c.isDigit) : isBlank c = false := by
  have bounds := bounds_of_isDigit digit
  simp only [isBlank, Bool.or_eq_false_iff, Bool.and_eq_false_iff, decide_eq_false_iff_not,
    beq_eq_false_iff_ne]
  omega

/-- No digit is a control character. -/
theorem isControl_of_isDigit {c : Char} (digit : c.isDigit) : isControl c = false := by
  have bounds := bounds_of_isDigit digit
  simp only [isControl, Bool.or_eq_false_iff, Bool.and_eq_false_iff, decide_eq_false_iff_not]
  omega

end CallChain.Text

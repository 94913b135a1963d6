import CallChain.Codec.Basic

/-! Codecs that read back what they write and tell for themselves where it ends. -/

namespace CallChain

/-- The text of the bytes of a text is the text. -/
@[simp] theorem Text.ofBytes?_toBytes (text : String) :
    Text.ofBytes? (Text.toBytes text) = some text := by
  -- The bytes go through a list and come back as the array they were.
  have bytes : (⟨(Text.toBytes text).toArray⟩ : ByteArray) = text.toByteArray := by
    simp [Text.toBytes]
  unfold Text.ofBytes? String.fromUTF8?
  rw [bytes, dif_pos text.isValidUTF8]
  rfl

namespace Codec

variable {α β : Type}

/-! ### Reading from the start of longer rows -/

/-- A reader that takes no notice of bytes put after those it needs. -/
structure Steady (read : Bytes → Option (α × Bytes)) : Prop where
  append : ∀ {bytes rest : Bytes} {a : α}, read bytes = some (a, rest) →
    ∀ more, read (bytes ++ more) = some (a, rest ++ more)

/-- Changing what was read leaves a reader steady. -/
theorem Steady.map {read : Bytes → Option (α × Bytes)} (steady : Steady read) (change : α → β) :
    Steady fun bytes => (read bytes).map fun (a, rest) => (change a, rest) where
  append done more := by
    obtain ⟨⟨a, tail⟩, found, same⟩ := Option.map_eq_some_iff.mp done
    cases same
    simp [steady.append found]

/-- Going on with a reader that is steady leaves a reader steady. -/
theorem Steady.bind {read : Bytes → Option (α × Bytes)} (steady : Steady read)
    {next : α → Bytes → Option (β × Bytes)} (onward : ∀ a, Steady (next a)) :
    Steady fun bytes => (read bytes).bind fun (a, rest) => next a rest where
  append done more := by
    obtain ⟨⟨a, tail⟩, found, others⟩ := Option.bind_eq_some_iff.mp done
    -- What the first reader leaves is longer by the same bytes, and the second one leaves them too.
    simp [steady.append found, (onward a).append others]

/-- A reader that refuses everything is steady. -/
theorem steady_none : Steady fun _ => (none : Option (α × Bytes)) where
  append done := by cases done

/-- A reader that needs no bytes is steady. -/
theorem steady_some (a : α) : Steady fun bytes => some (a, bytes) where
  append done more := by
    cases done
    rfl

/-- The choice between two steady readers is steady. -/
theorem Steady.ite {first second : Bytes → Option (α × Bytes)} (condition : Prop)
    [Decidable condition] (one : Steady first) (two : Steady second) :
    Steady fun bytes => if condition then first bytes else second bytes := by
  -- The condition does not look at the bytes, so it holds of the longer row too.
  by_cases holds : condition
  · simpa only [holds, if_true] using one
  · simpa only [holds, if_false] using two

/-- A reader that needs a first byte is steady when it goes on steadily after each byte. -/
theorem steady_of_cons {read : Bytes → Option (α × Bytes)} (empty : read [] = none)
    (onward : ∀ byte, Steady fun bytes => read (byte :: bytes)) : Steady read where
  append {bytes _ _} done more := by
    cases bytes with
    | nil =>
      -- Without a byte nothing was read, so there is nothing to keep.
      rw [empty] at done
      cases done
    | cons byte bytes => exact (onward byte).append done more

/-- A codec that reads back all data that fits it, whatever bytes follow. -/
structure Faithful (codec : Codec α) (fits : α → Prop) : Prop where
  read_write : ∀ {a : α}, fits a → ∀ rest, codec.read? (codec.write a ++ rest) = some (a, rest)
  steady : Steady codec.read?

variable {codec : Codec α} {fits : α → Prop}

/-- Nothing can be read from a part of what was written. -/
theorem Faithful.read?_of_prefix (faithful : codec.Faithful fits) {a : α} (fit : fits a)
    {start : Bytes} (begins : start <+: codec.write a) (shorter : start ≠ codec.write a) :
    codec.read? start = none := by
  obtain ⟨missing, whole⟩ := begins
  cases early : codec.read? start with
  | none => rfl
  | some found =>
    -- Data read early would be read from all the bytes too, and these leave nothing over.
    have late := faithful.steady.append early missing
    have all := faithful.read_write fit []
    rw [List.append_nil, ← whole, late] at all
    have nothing : found.2 ++ missing = [] := congrArg Prod.snd (Option.some.inj all)
    have complete : missing = [] := (List.append_eq_nil_iff.mp nothing).2
    rw [complete, List.append_nil] at whole
    exact absurd whole shorter

/-- A codec is faithful to fewer data as well. -/
theorem Faithful.mono (faithful : codec.Faithful fits) {fewer : α → Prop}
    (subset : ∀ a, fewer a → fits a) : codec.Faithful fewer where
  read_write fit rest := faithful.read_write (subset _ fit) rest
  steady := faithful.steady

/-! ### Numbers -/

/-- Bytes with the least significant first give their number back. -/
theorem ofLittleEndian?_littleEndian {count n : Nat} (small : n < Nat.pow 256 count)
    (rest : Bytes) : ofLittleEndian? count (littleEndian count n ++ rest) = some (n, rest) := by
  induction count generalizing n with
  | zero =>
    have zero : n = 0 := Nat.lt_one_iff.mp small
    simp [littleEndian, ofLittleEndian?, zero]
  | succ count ih =>
    -- The first byte holds the remainder, the others hold the quotient.
    have high : n / 256 < Nat.pow 256 count := by
      have power : Nat.pow 256 (count + 1) = Nat.pow 256 count * 256 := rfl
      omega
    have low : n % 256 % 256 + 256 * (n / 256) = n := by omega
    simp only [littleEndian, List.cons_append, ofLittleEndian?, ih high, Option.map_some,
      UInt8.toNat_ofNat', Nat.reducePow, low]

/-- Numbers of so many bytes are read steadily. -/
theorem steady_ofLittleEndian? (count : Nat) : Steady (ofLittleEndian? count) := by
  induction count with
  | zero => exact steady_some 0
  -- One byte is taken, and the others are read as a number of their own.
  | succ count ih => exact steady_of_cons rfl fun byte => ih.map fun high => byte.toNat + 256 * high

/-- A number in as few bytes as it needs is read back wherever that many are allowed. -/
theorem readNat?_writeNat {n width : Nat} (known : width = 4 ∨ width = 8)
    (small : n < Nat.pow 256 width) (rest : Bytes) :
    readNat? width (writeNat n ++ rest) = some (n, rest) := by
  have two : 2 ≤ width := by omega
  have wide : UInt32.size ≤ n → 8 ≤ width := by
    intro large
    rcases known with rfl | rfl
    · -- Four bytes hold numbers below the given size only.
      have power : Nat.pow 256 4 = UInt32.size := rfl
      omega
    · exact Nat.le_refl 8
  have bounded : n < Nat.pow 256 8 :=
    Nat.lt_of_lt_of_le small (Nat.pow_le_pow_right (by decide) (by omega))
  unfold writeNat
  -- The four size classes of the writer each put down the marker that the reader acts on.
  split
  next byte => simp [readNat?, UInt8.toNat_ofNat', Nat.mod_eq_of_lt (by omega : n < 256), byte]
  next =>
    split
    next short =>
      have found : ofLittleEndian? 2 (littleEndian 2 n ++ rest) = some (n, rest) :=
        ofLittleEndian?_littleEndian short rest
      simp [readNat?, two, found]
    next =>
      split
      next word =>
        have four : 4 ≤ width := by omega
        have found : ofLittleEndian? 4 (littleEndian 4 n ++ rest) = some (n, rest) :=
          ofLittleEndian?_littleEndian word rest
        simp [readNat?, four, found]
      next large =>
        have eight : 8 ≤ width := wide (Nat.not_lt.mp large)
        simp [readNat?, eight, ofLittleEndian?_littleEndian bounded]

/-- Numbers of any size class are read steadily. -/
theorem steady_readNat? (width : Nat) : Steady (readNat? width) := by
  refine steady_of_cons rfl fun marker => ?_
  -- The marker alone decides how many bytes belong to the number.
  exact .ite _ (steady_some _) (.ite _ (steady_ofLittleEndian? 2) (.ite _ (steady_ofLittleEndian? 4)
    (.ite _ (steady_ofLittleEndian? 8) steady_none)))

/-- Natural numbers of 32 bits are read back. -/
theorem word32_faithful : word32.Faithful fun _ => True where
  read_write {n} _ rest := by
    have small : n.toNat < Nat.pow 256 4 := UInt32.toNat_lt n
    simp [word32, readNat?_writeNat (.inl rfl) small]
  steady := (steady_readNat? 4).map _

/-- Natural numbers of 64 bits are read back. -/
theorem word64_faithful : word64.Faithful fun _ => True where
  read_write {n} _ rest := by
    have small : n.toNat < Nat.pow 256 8 := UInt64.toNat_lt n
    simp [word64, readNat?_writeNat (.inr rfl) small]
  steady := (steady_readNat? 8).map _

/-- An integer is found at its own place of the alternating order. -/
theorem unzigzag_zigzag (i : Int) : unzigzag (zigzag i) = i := by
  unfold zigzag
  split
  next negative =>
    -- Integers below zero stand at the odd places.
    have odd : (2 * (-i).toNat - 1) % 2 = 1 := by omega
    rw [unzigzag, if_pos odd]
    omega
  next =>
    have even : ¬ 2 * i.toNat % 2 = 1 := by omega
    rw [unzigzag, if_neg even]
    omega

/-- Integers of 64 bits are read back. -/
theorem int64_faithful : int64.Faithful fun _ => True where
  read_write {i} _ rest := by
    have least := Int64.le_toInt i
    have greatest := Int64.toInt_lt i
    -- The alternating order puts both extremes at the two last places of 64 bits.
    have small : zigzag i.toInt < Nat.pow 256 8 := by
      have power : Nat.pow 256 8 = 18446744073709551616 := rfl
      unfold zigzag
      split <;> omega
    simp [int64, readNat?_writeNat (.inr rfl) small, unzigzag_zigzag]
  steady := (steady_readNat? 8).map fun n => Int64.ofInt (unzigzag n)

/-- Eight bytes are read back as they are. -/
theorem fixed64_faithful : fixed64.Faithful fun _ => True where
  read_write {n} _ rest := by
    have small : n.toNat < Nat.pow 256 8 := UInt64.toNat_lt n
    simp [fixed64, ofLittleEndian?_littleEndian small]
  steady := (steady_ofLittleEndian? 8).map _

/-! ### Composite data -/

/-- Truth values are read back. -/
theorem boolean_faithful : boolean.Faithful fun _ => True where
  read_write {b} _ rest := by cases b <;> rfl
  steady := steady_of_cons rfl fun _ =>
    .ite _ (steady_some false) (.ite _ (steady_some true) steady_none)

/-- Data that may be absent is read back when the data is. -/
theorem Faithful.option (faithful : codec.Faithful fits) :
    codec.option.Faithful fun present => ∀ a, present = some a → fits a where
  read_write {present} fit rest := by
    cases present with
    | none => rfl
    | some a =>
      -- The byte in front says that the data follows.
      have found := faithful.read_write (fit a rfl) rest
      simp [Codec.option, found]
  steady := steady_of_cons rfl fun _ =>
    .ite _ (steady_some none) (.ite _ (faithful.steady.map some) steady_none)

/-- Two data in a row are read back when each of them is. -/
theorem Faithful.pair (first : codec.Faithful fits) {other : Codec β} {fitsOther : β → Prop}
    (second : other.Faithful fitsOther) :
    (codec.pair other).Faithful fun ab => fits ab.1 ∧ fitsOther ab.2 where
  read_write {ab} fit rest := by
    simp [Codec.pair, first.read_write fit.1, second.read_write fit.2]
  steady := first.steady.bind fun a => second.steady.bind fun b => steady_some (a, b)

/-- Data in the form of other data is read back when the form keeps all of it. -/
theorem Faithful.via (faithful : codec.Faithful fits) {form : β → α} {ofForm : α → β}
    (keeps : ∀ b, ofForm (form b) = b) :
    (codec.via form ofForm).Faithful fun b => fits (form b) where
  read_write {b} fit rest := by simp [Codec.via, faithful.read_write fit, keeps]
  steady := faithful.steady.map ofForm

/-- So many data in a row are read back when each of them is. -/
theorem Faithful.readMany?_flatMap (faithful : codec.Faithful fits) {as : List α}
    (fit : ∀ a ∈ as, fits a) (rest : Bytes) :
    readMany? codec as.length (as.flatMap codec.write ++ rest) = some (as, rest) := by
  -- The first of them is read with the bytes of the others behind it.
  induction as with
  | nil => rfl
  | cons a others ih =>
    have head := faithful.read_write (fit a (by simp)) (others.flatMap codec.write ++ rest)
    have tail := ih fun other member => fit other (by simp [member])
    simp [readMany?, head, tail]

/-- So many data in a row are read steadily when each of them is. -/
theorem Faithful.steady_readMany? (faithful : codec.Faithful fits) (count : Nat) :
    Steady (readMany? codec count) := by
  induction count with
  | zero => exact steady_some []
  | succ count ih =>
    exact faithful.steady.bind fun a => ih.bind fun others => steady_some (a :: others)

/-- Lists are read back when their elements are, unless 64 bits cannot count these. -/
theorem Faithful.list (faithful : codec.Faithful fits) :
    codec.list.Faithful fun as => as.length < UInt64.size ∧ ∀ a ∈ as, fits a where
  read_write {as} fit rest := by
    have counted := readNat?_writeNat (.inr rfl) fit.1 (as.flatMap codec.write ++ rest)
    simp [Codec.list, counted, faithful.readMany?_flatMap fit.2]
  steady := (steady_readNat? 8).bind faithful.steady_readMany?

/-- Whether 64 bits can count the bytes of a text, as they can for every text in memory. -/
def Short (text : String) : Prop :=
  (Text.toBytes text).length < UInt64.size

instance (text : String) : Decidable (Short text) :=
  inferInstanceAs (Decidable ((Text.toBytes text).length < UInt64.size))

/-- Texts are read back, unless 64 bits cannot count their bytes. -/
theorem text_faithful : text.Faithful Short where
  read_write {s} short rest := by
    have counted := readNat?_writeNat (.inr rfl) short (Text.toBytes s ++ rest)
    simp [text, counted]
  steady := by
    have content : ∀ count, Steady fun bytes =>
        if (bytes.take count).length < count then none
        else (Text.ofBytes? (bytes.take count)).map fun s => (s, bytes.drop count) := by
      refine fun count => ⟨fun {bytes rest s} done more => ?_⟩
      split at done
      next => cases done
      next enough =>
        -- The bytes of the text are all there, so none are taken from what is put after them.
        have bound : count ≤ bytes.length := by
          rw [List.length_take] at enough
          omega
        obtain ⟨found, decoded, same⟩ := Option.map_eq_some_iff.mp done
        cases same
        rw [List.take_append_of_le_length bound, List.drop_append_of_le_length bound,
          if_neg enough, decoded, Option.map_some]
    exact (steady_readNat? 8).bind content

/-- Members of a list of alternatives are read back by their position. -/
theorem oneOf_faithful [DecidableEq α] {alternatives : List α}
    (few : alternatives.length ≤ UInt32.size) :
    (oneOf alternatives).Faithful (· ∈ alternatives) where
  read_write {a} member rest := by
    have inside := List.idxOf_lt_length_of_mem member
    have small : alternatives.idxOf a < Nat.pow 256 4 := Nat.lt_of_lt_of_le inside few
    have found : alternatives[alternatives.idxOf a]? = some a := by
      rw [List.getElem?_eq_getElem inside, List.getElem_idxOf inside]
    simp [oneOf, readNat?_writeNat (.inl rfl) small, found]
  steady := by
    -- Looking an alternative up needs no bytes beyond those of its position.
    have choice : ∀ index : Nat, Steady fun bytes => (alternatives[index]?).map (·, bytes) := by
      refine fun index => ⟨fun done more => ?_⟩
      obtain ⟨found, chosen, same⟩ := Option.map_eq_some_iff.mp done
      cases same
      simp [chosen]
    exact (steady_readNat? 4).bind choice

end Codec

end CallChain

import CallChain.Proofs.Node.Consistency
import CallChain.Proofs.Text.Trimming

/-! Names that are given out: each is allowed, and no other slot has it. -/

namespace CallChain

namespace Node

/-- A numbered name is its base, an underscore and the digits of its number. -/
theorem toList_numbered (base : String) (number : Nat) :
    (numbered base number).toList = base.toList ++ '_' :: Nat.toDigits 10 number := by
  simp [numbered, toString]

/-- The number can be read off a numbered name. -/
theorem numbered_injective (base : String) : Function.Injective (numbered base) := by
  intro first second same
  have chars := congrArg String.toList same
  rw [toList_numbered, toList_numbered] at chars
  -- Both names have the same digits, and digits name one number only.
  have digits := (List.cons.inj (List.append_cancel_left chars)).2
  rw [← @Nat.ofDigitChars_ten_toDigits first, digits, Nat.ofDigitChars_ten_toDigits]

/-- Pins of the node itself are not numbered. -/
theorem numbered_unreserved (base : String) (number : Nat) :
    numbered base number ∉ Slot.reservedNames := by
  intro reserved
  -- None of the reserved names has an underscore in it.
  have plain : ∀ name ∈ Slot.reservedNames, '_' ∉ name.toList := by decide
  refine plain _ reserved ?_
  rw [toList_numbered]
  simp

/-- Numbering keeps a name valid. -/
theorem nameAllowed_numbered {base : String} (valid : Slot.isValidName base) (number : Nat) :
    Slot.NameAllowed (numbered base number) := by
  obtain ⟨nonempty, trimmed, printable⟩ := Slot.isValidName_iff.mp valid
  have digits : ∀ c ∈ Nat.toDigits 10 number, c.isDigit := fun c member =>
    Nat.isDigit_of_mem_toDigits (by decide) (by decide) member
  obtain ⟨front, _⟩ := Text.trimList_eq_self_iff.mp (Text.trim_eq_self_iff.mp trimmed)
  have filled : base.toList ≠ [] := by simpa using nonempty
  exact {
    nonempty := by
      intro empty
      have chars := congrArg String.toList empty
      simp [toList_numbered] at chars
    trimmed := by
      -- The front is that of the base, and the last character is a digit.
      rw [Text.trim_eq_self_iff, Text.trimList_eq_self_iff, toList_numbered]
      refine ⟨?_, fun c last => ?_⟩
      · rwa [List.head?_append_of_ne_nil _ filled]
      · rw [List.getLast?_append_of_ne_nil _ (by simp),
          List.getLast?_cons_of_ne_nil Nat.toDigits_ne_nil] at last
        exact Text.isBlank_of_isDigit (digits c (List.mem_of_getLast? last))
    printable := by
      intro c member
      rw [toList_numbered, List.mem_append, List.mem_cons] at member
      rcases member with inBase | rfl | digit
      · exact printable c inBase
      · decide
      · exact Text.isControl_of_isDigit (digits c digit)
    unreserved := numbered_unreserved base number }

variable {node : Node} {base name : String} {renamed : Option SlotId}

/-- A name is free exactly when no pin of the node has it and no slot but the renamed one. -/
theorem isTaken_eq_false_iff : node.isTaken name renamed = false ↔
    name ∉ Slot.reservedNames ∧
      ∀ slot ∈ node.slots.entries, slot.name = name → some slot.id = renamed := by
  simp [isTaken, Slot.isReserved]

/-- A search for a numbered name that finds none has met taken ones only. -/
theorem firstFree?_eq_none {candidates number : Nat}
    (absent : node.firstFree? base renamed candidates number = none) :
    ∀ offset < candidates, node.isTaken (numbered base (number + offset)) renamed = true := by
  induction candidates generalizing number with
  | zero => simp
  | succ candidates ih =>
    simp only [firstFree?] at absent
    split at absent
    next taken =>
      intro offset bound
      cases offset with
      | zero => exact taken
      | succ offset =>
        -- The rest of the search starts one number later.
        have later := ih absent offset (by omega)
        rwa [Nat.add_assoc, Nat.add_comm 1] at later
    next => cases absent

/-- A numbered name that was found is free, and those with smaller numbers are taken. -/
theorem firstFree?_eq_some {candidates number : Nat}
    (found : node.firstFree? base renamed candidates number = some name) :
    ∃ offset < candidates, name = numbered base (number + offset) ∧
      node.isTaken name renamed = false ∧
      ∀ smaller < offset, node.isTaken (numbered base (number + smaller)) renamed = true := by
  -- Each number that the search passes is one that is taken.
  induction candidates generalizing number with
  | zero => cases found
  | succ candidates ih =>
    simp only [firstFree?] at found
    split at found
    next taken =>
      obtain ⟨offset, bound, rfl, free, passed⟩ := ih found
      refine ⟨offset + 1, by omega, by rw [Nat.add_assoc, Nat.add_comm 1], free, ?_⟩
      intro smaller below
      cases smaller with
      | zero => exact taken
      | succ smaller =>
        have later := passed smaller (by omega)
        rwa [Nat.add_assoc, Nat.add_comm 1] at later
    next free =>
      obtain rfl := Option.some.inj found
      exact ⟨0, by omega, rfl, by simpa using free, by simp⟩

/-- More numbers than there are slots are enough to find a free name. -/
theorem exists_firstFree (node : Node) (base : String) (renamed : Option SlotId) (number : Nat) :
    ∃ name, node.firstFree? base renamed (node.slots.entries.length + 1) number = some name := by
  rw [← Option.isSome_iff_exists, Option.isSome_iff_ne_none]
  intro absent
  have taken := firstFree?_eq_none absent
  -- Each number would belong to a slot, but there are fewer slots than numbers.
  have fewer : (node.slots.entries.map Slot.name).length < node.slots.entries.length + 1 := by simp
  obtain ⟨offset, bound, free⟩ := exists_absent (fun offset => numbered base (number + offset))
    (fun first _ second _ same => Nat.add_left_cancel (numbered_injective base same)) _ fewer
  have unreserved := numbered_unreserved base (number + offset)
  have occupied := taken offset bound
  simp only [isTaken, Slot.isReserved, Bool.or_eq_true, List.contains_iff_mem, unreserved,
    false_or, List.any_eq_true, Bool.and_eq_true, beq_iff_eq] at occupied
  obtain ⟨slot, member, named, _⟩ := occupied
  exact free (List.mem_map.mpr ⟨slot, member, named⟩)

/-- The name to start from is valid. -/
theorem isValidName_baseName (proposed : Option String) :
    Slot.isValidName (baseName proposed) = true := by
  unfold baseName
  -- A proposal that is not valid is not used.
  cases kept : (proposed.map Text.trim).filter Slot.isValidName with
  | none => decide +kernel
  | some name => exact (Option.filter_eq_some_iff.mp kept).2

/-- A name that is given out is allowed and free. -/
theorem freeName_free (node : Node) (proposed : Option String) (renamed : Option SlotId) :
    Slot.NameAllowed (node.freeName proposed renamed) ∧
      node.isTaken (node.freeName proposed renamed) renamed = false := by
  have valid := isValidName_baseName proposed
  unfold freeName
  cases taken : node.isTaken (baseName proposed) renamed with
  | false =>
    have unreserved := (isTaken_eq_false_iff.mp taken).1
    obtain ⟨nonempty, trimmed, printable⟩ := Slot.isValidName_iff.mp valid
    simp only [taken, Bool.false_eq_true, if_false, and_true]
    exact ⟨nonempty, trimmed, printable, unreserved⟩
  | true =>
    -- The base is taken, by a slot or by a pin of the node, but one of its numbered forms is not.
    obtain ⟨name, found⟩ := exists_firstFree node (baseName proposed) renamed 1
    obtain ⟨offset, _, rfl, free, _⟩ := firstFree?_eq_some found
    simp only [taken, found, if_true, Option.getD_some]
    exact ⟨nameAllowed_numbered valid (1 + offset), free⟩

end Node

end CallChain

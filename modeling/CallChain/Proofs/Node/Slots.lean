import CallChain.Proofs.Node.Consistency

/-! Tables of slots: fresh ids, and what a look-up finds after a slot was added, changed or taken
out. -/

namespace CallChain.Slots

variable {table : Slots} {id other : SlotId}

/-- A table does not hold an id exactly when none of its slots has it. -/
theorem holds_eq_false_iff : table.holds id = false ↔ ∀ slot ∈ table.entries, slot.id ≠ id := by
  simp [holds, get?]

/-- A search for an id that finds none has met held ones only. -/
theorem freeFrom?_eq_none {candidates candidate : Nat}
    (absent : table.freeFrom? candidates candidate = none) :
    ∀ offset < candidates, table.holds ⟨.ofNat (candidate + offset)⟩ = true := by
  -- The search moves on by one candidate for each that is held.
  induction candidates generalizing candidate with
  | zero => simp
  | succ candidates ih =>
    simp only [freeFrom?] at absent
    split at absent
    next held =>
      intro offset bound
      cases offset with
      | zero => exact held
      | succ offset =>
        have later := ih absent offset (by omega)
        rwa [Nat.add_assoc, Nat.add_comm 1] at later
    next => cases absent

/-- An id that was found is the first of the candidates that no slot has. -/
theorem freeFrom?_eq_some {candidates candidate : Nat}
    (found : table.freeFrom? candidates candidate = some id) :
    table.holds id = false ∧ ∃ offset < candidates, id = ⟨.ofNat (candidate + offset)⟩ ∧
      ∀ smaller < offset, table.holds ⟨.ofNat (candidate + smaller)⟩ = true := by
  -- Each candidate that the search passes is one that is held.
  induction candidates generalizing candidate with
  | zero => cases found
  | succ candidates ih =>
    simp only [freeFrom?] at found
    split at found
    next held =>
      obtain ⟨free, offset, bound, rfl, passed⟩ := ih found
      refine ⟨free, offset + 1, by omega, by rw [Nat.add_assoc, Nat.add_comm 1], ?_⟩
      intro smaller below
      cases smaller with
      | zero => exact held
      | succ smaller =>
        have later := passed smaller (by omega)
        rwa [Nat.add_assoc, Nat.add_comm 1] at later
    next free =>
      obtain rfl := Option.some.inj found
      exact ⟨by simpa using free, 0, by omega, rfl, by simp⟩

/-- In a table with room for more, the least free id is neither held nor the last one, and all ids
below it are held. -/
theorem leastFree_spec (room : table.entries.length < 4294967295) :
    table.holds table.leastFree = false ∧ table.leastFree.raw < lastId ∧
      ∀ smaller : SlotId, smaller.raw < table.leastFree.raw → table.holds smaller = true := by
  have last : lastId.toNat = 4294967295 := rfl
  have count : min (table.entries.length + 1) lastId.toNat = table.entries.length + 1 := by omega
  unfold leastFree
  rw [count]
  cases found : table.freeFrom? (table.entries.length + 1) 0 with
  | none =>
    -- Each candidate would be held by a slot, but there are fewer slots than candidates.
    have held := freeFrom?_eq_none found
    have fewer : (table.entries.map Slot.id).length < table.entries.length + 1 := by simp
    obtain ⟨offset, bound, free⟩ := exists_absent (fun offset => (⟨.ofNat (0 + offset)⟩ : SlotId))
      (fun first one second two same => by
        have numbers := congrArg (fun id : SlotId => id.raw.toNat) same
        simp only [UInt32.toNat_ofNat'] at numbers
        omega) _ fewer
    have absent : table.holds ⟨.ofNat (0 + offset)⟩ = false :=
      holds_eq_false_iff.mpr fun slot member same =>
        free (List.mem_map.mpr ⟨slot, member, same⟩)
    rw [held offset bound] at absent
    cases absent
  | some id =>
    obtain ⟨free, offset, bound, rfl, passed⟩ := freeFrom?_eq_some found
    refine ⟨free, ?_, ?_⟩
    · rw [UInt32.lt_iff_toNat_lt, last]
      simp only [Option.getD_some, UInt32.toNat_ofNat']
      omega
    · intro smaller below
      -- A smaller id is one of the candidates that the search has passed.
      rw [UInt32.lt_iff_toNat_lt] at below
      simp only [Option.getD_some, UInt32.toNat_ofNat'] at below
      have held := passed smaller.raw.toNat (by omega)
      rwa [Nat.zero_add, UInt32.ofNat_toNat] at held

/-- A new slot gets an id below the new counter that no slot has, and the counter never falls. -/
theorem allocate_fresh (below : ∀ slot ∈ table.entries, slot.id.raw < table.nextId)
    (room : table.entries.length < 4294967295) :
    (∀ slot ∈ table.entries, slot.id ≠ table.allocate.1) ∧
      table.allocate.1.raw < table.allocate.2 ∧ table.nextId ≤ table.allocate.2 := by
  unfold allocate
  split
  next exhausted =>
    -- Once the counter stands at its end, ids come from the gaps.
    obtain ⟨free, bounded, _⟩ := leastFree_spec room
    exact ⟨holds_eq_false_iff.mp free, bounded, UInt32.le_of_eq exhausted⟩
  next counting =>
    have size := UInt32.toNat_lt table.nextId
    -- The counter is not at its end, so it does not wrap.
    have early : table.nextId.toNat ≠ 4294967295 := fun same =>
      counting (UInt32.toNat_inj.mp same)
    have onward : (table.nextId + 1).toNat = table.nextId.toNat + 1 := by
      simp only [UInt32.toNat_add, UInt32.toNat_one]
      omega
    refine ⟨fun slot member same => ?_, ?_, ?_⟩
    · have under := below slot member
      rw [same] at under
      exact UInt32.lt_irrefl _ under
    · rw [UInt32.lt_iff_toNat_lt, onward]
      exact Nat.lt_succ_self _
    · rw [UInt32.le_iff_toNat_le, onward]
      exact Nat.le_succ _

/-- A slot that is found is still found once others were added after it. -/
theorem get?_append {slot : Slot} (found : table.get? id = some slot) (added : List Slot)
    (nextId : UInt32) : get? ⟨table.entries ++ added, nextId⟩ id = some slot := by
  unfold get? at found ⊢
  rw [List.find?_append, found, Option.some_or]

/-- Taking one slot out leaves what other ids find. -/
theorem get?_eraseP (kept : other ≠ id) :
    get? { table with entries := table.entries.eraseP fun slot => slot.id == id } other =
      table.get? other := by
  unfold get?
  induction table.entries with
  | nil => rfl
  | cons slot rest ih =>
    by_cases found : slot.id = id
    · -- This is the slot that is taken out, and its id is not the other one.
      have passed : ¬ slot.id = other := fun same => kept (same.symm.trans found)
      simp only [List.eraseP_cons, beq_iff_eq.mpr found, cond_true, List.find?_cons,
        beq_eq_false_iff_ne.mpr passed]
    · simp only [List.eraseP_cons, beq_eq_false_iff_ne.mpr found, cond_false, List.find?_cons, ih]

/-- Changing a slot but for its id changes what its id finds, and nothing else. -/
theorem get?_modify {change : Slot → Slot} (keeps : ∀ slot, (change slot).id = slot.id) :
    (table.modify id change).get? other =
      (table.get? other).map fun slot => if slot.id = id then change slot else slot := by
  unfold get? modify
  simp only
  induction table.entries with
  | nil => rfl
  | cons slot rest ih =>
    by_cases changed : slot.id = id
    · by_cases found : slot.id = other
      · simp [modifyFirst, changed, keeps, ← found]
      · -- The slot is passed over, and what is found later has an id that nothing changes.
        have passed : id ≠ other := fun same => found (changed.trans same)
        simp only [modifyFirst, changed, if_true, List.find?_cons, keeps,
          beq_eq_false_iff_ne.mpr passed]
        cases later : rest.find? fun slot => slot.id == other with
        | none => rfl
        | some kept =>
          have own : kept.id = other := by simpa using List.find?_some later
          have unchanged : kept.id ≠ id := fun same => passed (same.symm.trans own)
          simp [unchanged]
    · -- The slot stays as it is, and the change comes later.
      by_cases found : slot.id = other
      · simp [modifyFirst, changed, ← found]
      · simp only [modifyFirst, changed, if_false, List.find?_cons,
          beq_eq_false_iff_ne.mpr found, ih]

/-- Among distinct ids, changing the first slot with an id is changing every slot with it. -/
theorem modifyFirst_eq_map {change : Slot → Slot} {slots : List Slot}
    (distinct : (slots.map Slot.id).Nodup) :
    modifyFirst change id slots =
      slots.map fun slot => if slot.id = id then change slot else slot := by
  induction slots with
  | nil => rfl
  | cons slot rest ih =>
    rw [List.map_cons, List.nodup_cons] at distinct
    by_cases changed : slot.id = id
    · -- No later slot has the id.
      have others : rest.map (fun slot => if slot.id = id then change slot else slot) = rest := by
        refine (List.map_congr_left fun other member => ?_).trans (List.map_id rest)
        have different : other.id ≠ id := fun same =>
          distinct.1 (List.mem_map.mpr ⟨other, member, same.trans changed.symm⟩)
        rw [if_neg different, id_eq]
      simp [modifyFirst, changed, others]
    · simp [modifyFirst, changed, ih distinct.2]

end CallChain.Slots

import CallChain.Proofs.Node.Effects

/-! Free names: the name that is given out is the first one that is free, and a slot that was
renamed to a free name keeps it when the same is asked for again. -/

namespace CallChain

namespace Slot

/-- A text that makes no name: it has nothing but blanks, or a control character between its
ends. -/
def Nameless (text : String) : Prop :=
  (∀ c ∈ text.toList, Text.isBlank c = true) ∨
    ∃ c ∈ (Text.trim text).toList, Text.isControl c = true

/-- The name to start from: the trimmed proposal, unless there is none or it makes no name. -/
inductive StartsFrom : Option String → String → Prop where
  | proposal {text : String} (named : ¬ Nameless text) : StartsFrom (some text) (Text.trim text)
  | nameless {text : String} (nameless : Nameless text) : StartsFrom (some text) "Param"
  | absent : StartsFrom none "Param"

/-- A trimmed text is a valid name unless the text makes none. -/
theorem isValidName_trim_iff {text : String} :
    isValidName (Text.trim text) = true ↔ ¬ Nameless text := by
  rw [isValidName_iff, ne_eq, Text.trim_eq_empty_iff, Nameless]
  simp [Text.trim_trim]

/-- The name that a search starts from is made of the proposal. -/
theorem startsFrom_baseName (proposed : Option String) :
    StartsFrom proposed (Node.baseName proposed) := by
  cases proposed with
  | none => exact .absent
  | some text =>
    -- Only a proposal that makes a valid name is used.
    by_cases named : isValidName (Text.trim text) = true
    · have base : Node.baseName (some text) = Text.trim text := by
        simp [Node.baseName, Option.filter, named]
      rw [base]
      exact .proposal (isValidName_trim_iff.mp named)
    · have base : Node.baseName (some text) = fallbackName := by
        simp [Node.baseName, Option.filter, named]
      rw [base]
      exact .nameless (by simpa [isValidName_trim_iff] using named)

end Slot

namespace Node

/-- No pin of the node itself has the name, and no slot but the one to disregard. -/
def IsFree (node : Node) (name : String) (except : Option SlotId) : Prop :=
  name ∉ Slot.reservedNames ∧
    ∀ slot ∈ node.slots.entries, slot.name = name → some slot.id = except

/-- The first free form of a name: the name itself, or else the name with the least number after it
that makes it free, which is at most one more than there are slots. -/
inductive FirstFree (node : Node) (except : Option SlotId) (base : String) : String → Prop where
  | plain (free : node.IsFree base except) : FirstFree node except base base
  | suffixed {number : Nat} (taken : ¬ node.IsFree base except) (positive : 1 ≤ number)
      (bounded : number ≤ node.slots.entries.length + 1)
      (free : node.IsFree (numbered base number) except)
      (least : ∀ smaller, 1 ≤ smaller → smaller < number →
        ¬ node.IsFree (numbered base smaller) except) :
      FirstFree node except base (numbered base number)

variable {node after : Node} {id : SlotId} {except : Option SlotId} {name : String}

/-- A name that counts as taken is one that is not free. -/
theorem isTaken_eq_true_iff : node.isTaken name except = true ↔ ¬ node.IsFree name except := by
  rw [IsFree, ← isTaken_eq_false_iff, Bool.not_eq_false]

/-- The name that is given out is the first free form of the name to start from. -/
theorem firstFree_freeName (node : Node) (proposed : Option String) (except : Option SlotId) :
    node.FirstFree except (baseName proposed) (node.freeName proposed except) := by
  unfold freeName
  cases taken : node.isTaken (baseName proposed) except with
  | false =>
    simp only [taken, Bool.false_eq_true, if_false]
    exact .plain (isTaken_eq_false_iff.mp taken)
  | true =>
    -- There are more numbers to try than slots that could have the names made with them.
    obtain ⟨name, found⟩ := exists_firstFree node (baseName proposed) except 1
    obtain ⟨offset, bound, rfl, free, passed⟩ := firstFree?_eq_some found
    simp only [taken, found, if_true, Option.getD_some]
    refine .suffixed (isTaken_eq_true_iff.mp taken) (by omega) (by omega)
      (isTaken_eq_false_iff.mp free) ?_
    intro smaller positive below
    have earlier := passed (smaller - 1) (by omega)
    rw [Nat.add_sub_of_le positive] at earlier
    exact isTaken_eq_true_iff.mp earlier

/-- The search for a numbered name sees of a node only which names are taken. -/
theorem firstFree?_congr {first second : Node}
    (same : ∀ name, first.isTaken name except = second.isTaken name except) (base : String)
    (candidates number : Nat) :
    first.firstFree? base except candidates number =
      second.firstFree? base except candidates number := by
  induction candidates generalizing number with
  | zero => rfl
  | succ candidates ih => simp only [firstFree?, same, ih]

/-- Whatever name the slot to disregard is given, the same names are taken. -/
theorem Changed.isTaken_eq {change : Slot → Slot} (changed : node.Changed after id change)
    (keeps : ∀ slot, (change slot).id = slot.id) (name : String) :
    after.isTaken name (some id) = node.isTaken name (some id) := by
  rw [changed.whole, isTaken, isTaken, List.any_map]
  congr 2
  funext slot
  by_cases here : slot.id = id
  · -- The slot itself does not count, neither before nor after the change.
    simp [here, keeps]
  · simp [here]

/-- Whatever name the slot to disregard is given, the same name is given out. -/
theorem Changed.freeName_eq {change : Slot → Slot} (changed : node.Changed after id change)
    (keeps : ∀ slot, (change slot).id = slot.id) (proposed : Option String) :
    after.freeName proposed (some id) = node.freeName proposed (some id) := by
  have same := changed.isTaken_eq keeps
  have size : after.slots.entries.length = node.slots.entries.length := by simp [changed.whole]
  unfold freeName
  simp only [same, size, firstFree?_congr same]

/-- A slot that has got a name is not changed by giving it the name again. -/
theorem Changed.rename_again {again : Node}
    (once : node.Changed after id fun slot => { slot with name })
    (twice : after.Changed again id fun slot => { slot with name }) : again = after := by
  have settled : (after.slots.entries.map fun slot =>
      if slot.id = id then { slot with name } else slot) = after.slots.entries := by
    rw [once.whole, List.map_map]
    refine List.map_congr_left ?_
    intro slot _
    by_cases here : slot.id = id <;> simp [here]
  rw [twice.whole, settled]

/-- A slot is renamed to the free form of a text that makes a name, and asking for the same again
changes nothing. -/
theorem renameFree_settles (ids : (node.slots.entries.map Slot.id).Nodup) {text used : String}
    (chosen : used = node.freeName (some text) (some id)) (named : ¬ Slot.Nameless text)
    {slot : Slot} (member : slot ∈ node.slots.entries) (own : slot.id = id) :
    ∃ after, node.renameFree id text = .ok (after, used) ∧
      node.Changed after id (fun slot => { slot with name := used }) ∧
      after.renameFree id text = .ok (after, used) := by
  have valid := Slot.isValidName_trim_iff.mpr named
  have found : node.slots.get? id = some slot := own ▸ Slots.get?_eq_some_of_mem ids member
  obtain ⟨⟨after, _⟩, done⟩ := renameFree_succeeds_iff.mpr ⟨valid, slot, found⟩
  obtain ⟨given, once⟩ := renamedFree ids done
  rw [← chosen] at given
  subst given
  -- The slots have kept their ids, so the second request is not refused either.
  have places : after.slots.entries.map Slot.id = node.slots.entries.map Slot.id :=
    once.inPlaces fun _ => rfl
  have idsAfter : (after.slots.entries.map Slot.id).Nodup := by rwa [places]
  have known : id ∈ after.slots.entries.map Slot.id := by
    rw [places]
    exact List.mem_map.mpr ⟨slot, member, own⟩
  obtain ⟨renamed, placed, same⟩ := List.mem_map.mp known
  have remains : after.slots.get? id = some renamed :=
    same ▸ Slots.get?_eq_some_of_mem idsAfter placed
  obtain ⟨⟨again, _⟩, repeated⟩ := renameFree_succeeds_iff.mpr ⟨valid, renamed, remains⟩
  obtain ⟨given, twice⟩ := renamedFree idsAfter repeated
  -- The slot itself does not stand in the way of its name, so the name is the same.
  rw [once.freeName_eq fun _ => rfl, ← chosen] at given
  subst given
  obtain rfl := once.rename_again twice
  exact ⟨again, done, once, repeated⟩

/-- The name that is given out is allowed and free, and it is the first free form of the trimmed
proposal, or of the fallback where that makes no name. On a node with different slot ids, giving a
slot a free form of a name is refused just if the text makes no name or there is no such slot. The
slot then has the name that would have been given out for it before, and asking for the same again
gives that name and changes nothing. -/
theorem freeName_is_first_free (node : Node) :
    (∀ proposed except, Slot.NameAllowed (node.freeName proposed except) ∧
      node.IsFree (node.freeName proposed except) except ∧
      ∃ base, Slot.StartsFrom proposed base ∧
        node.FirstFree except base (node.freeName proposed except)) ∧
    ((node.slots.entries.map Slot.id).Nodup → ∀ id text,
      (Slot.Nameless text →
        (Editing.renameFree id text).run node = .error (.invalidName text) node) ∧
      (¬ Slot.Nameless text → (∀ slot ∈ node.slots.entries, slot.id ≠ id) →
        (Editing.renameFree id text).run node = .error (.slotNotFound id) node) ∧
      (¬ Slot.Nameless text → ∀ slot ∈ node.slots.entries, slot.id = id →
        let used := node.freeName (some text) (some id)
        ∃ after, (Editing.renameFree id text).run node = .ok used after ∧
          node.Changed after id (fun slot => { slot with name := used }) ∧
          (Editing.renameFree id text).run after = .ok used after)) := by
  refine ⟨?_, ?_⟩
  · intro proposed except
    obtain ⟨allowed, free⟩ := freeName_free node proposed except
    exact ⟨allowed, isTaken_eq_false_iff.mp free, _, Slot.startsFrom_baseName proposed,
      firstFree_freeName node proposed except⟩
  · intro ids id text
    refine ⟨?_, ?_, ?_⟩
    · intro nameless
      have invalid : Slot.isValidName (Text.trim text) = false := by
        rw [← Bool.not_eq_true, Slot.isValidName_trim_iff, not_not]
        exact nameless
      rw [Editing.run_renameFree, renameFree]
      simp [invalid, settled]
    · intro named unknown
      have valid := Slot.isValidName_trim_iff.mpr named
      have missing : node.slots.get? id = none :=
        List.find?_eq_none.mpr fun slot member => by simpa using unknown slot member
      -- A free name is valid, so nothing is at fault before the slot is looked for.
      obtain ⟨allowed, _⟩ := freeName_free node (some text) (some id)
      have trimmed := allowed.trimmed
      have fine := (Slot.nameAllowed_iff.mp allowed).1
      rw [Editing.run_renameFree]
      simp [renameFree, rename, valid, trimmed, fine, Slots.holds, missing, Except.map, settled]
    · intro named slot member own used
      obtain ⟨after, done, changed, again⟩ := renameFree_settles ids rfl named member own
      refine ⟨after, ?_, changed, ?_⟩
      · rw [Editing.run_renameFree, done]
        rfl
      · rw [Editing.run_renameFree, again]
        rfl

/-- A node with names that look numbered. -/
def register : Node where
  id := "register"
  fixed := ⟨none, none, none⟩
  slots := ⟨[⟨⟨0⟩, "Title", .string, none⟩, ⟨⟨1⟩, "Title_1", .string, none⟩,
    ⟨⟨2⟩, "Title_3", .string, none⟩, ⟨⟨5⟩, "Title_2", .string, none⟩], 6⟩
  links := []

/-- The third slot of the register asks for the name of the first, and gets the first number that
is free without its own, which leaves a number between them that is taken. -/
theorem freeName_is_first_free_register :
    (register.slots.entries.map Slot.id).Nodup ∧ ¬ Slot.Nameless " Title " ∧
    ∃ after, (Editing.renameFree ⟨2⟩ " Title ").run register = .ok "Title_3" after ∧
      register.Changed after ⟨2⟩ (fun slot => { slot with name := "Title_3" }) ∧
      (Editing.renameFree ⟨2⟩ " Title ").run after = .ok "Title_3" after := by
  have ids : (register.slots.entries.map Slot.id).Nodup := by decide
  have named : ¬ Slot.Nameless " Title " :=
    Slot.isValidName_trim_iff.mp (by decide +kernel)
  have used : register.freeName (some " Title ") (some ⟨2⟩) = "Title_3" := by decide +kernel
  obtain ⟨_, renames⟩ := freeName_is_first_free register
  obtain ⟨_, _, settles⟩ := renames ids ⟨2⟩ " Title "
  obtain ⟨after, done, changed, again⟩ :=
    settles named ⟨⟨2⟩, "Title_3", .string, none⟩ (by simp [register]) rfl
  rw [used] at done changed again
  exact ⟨ids, named, after, done, changed, again⟩

end Node

end CallChain

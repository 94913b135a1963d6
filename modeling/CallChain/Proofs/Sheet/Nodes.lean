import CallChain.Proofs.Node.MenuActions
import CallChain.Proofs.Sheet.Conversion

/-! Nodes of a sheet: slot by slot, what their parameters become. -/

namespace CallChain

namespace Node

variable {node first second : Node} {except : Option SlotId} {base name : String}

/-- The node with only its first slots, so many of them. -/
def upTo (node : Node) (count : Nat) : Node :=
  { node with slots := { node.slots with entries := node.slots.entries.take count } }

/-- Which names are free is decided by the slots alone. -/
theorem isFree_congr (same : first.slots.entries = second.slots.entries) :
    first.IsFree name except ↔ second.IsFree name except := by
  rw [IsFree, IsFree, same]

/-- So is which form of a name is the first that is free. -/
theorem FirstFree.congr (same : first.slots.entries = second.slots.entries)
    (free : first.FirstFree except base name) : second.FirstFree except base name := by
  cases free with
  | plain free => exact .plain ((isFree_congr same).mp free)
  | suffixed taken positive bounded free least =>
    refine .suffixed ?_ positive (by rwa [← same]) ((isFree_congr same).mp free) ?_
    · rwa [← isFree_congr same]
    · intro smaller least' below
      rw [← isFree_congr same]
      exact least smaller least' below

/-- A node as it is before any slot was removed: consistent, with as many ids given out as it has
slots. -/
structure Counted (node : Node) : Prop where
  consistent : node.Consistent
  count : node.slots.nextId.toNat = node.slots.entries.length

/-- A node stays like that when a slot is added to it. -/
theorem Counted.add (counted : node.Counted) (room : node.slots.entries.length < 4294967295)
    (proposed : Option String) (type : ValueType) {default : Option Value}
    (typed : ∀ value, default = some value → value.type = type) :
    (node.add proposed type default).1.Counted where
  consistent := counted.consistent.add room proposed type typed
  count := by
    -- The counter has not reached its end, so it moves on by one.
    have moved := Slots.nextId_allocate node.slots
    have last : Slots.lastId.toNat = 4294967295 := rfl
    have size : (node.add proposed type default).1.slots.entries.length =
        node.slots.entries.length + 1 := by simp [Node.add, Slots.push]
    have next : (node.add proposed type default).1.slots.nextId = node.slots.allocate.2 := rfl
    have count := counted.count
    rw [next, moved, size]
    omega

end Node

namespace SheetParam

/-- The slot at a position of a node is that of a parameter: it has the type and the literal that
the parameter describes, and the first free form of its name that there was before it. -/
def BecomesSlot (param : SheetParam) (node : Node) (position : Nat) : Prop :=
  ∃ slot, node.slots.entries[position]? = some slot ∧
    param.Describes (slot.type, slot.default) ∧
    ∃ base, Slot.StartsFrom param.name base ∧
      (node.upTo position).FirstFree none base slot.name

end SheetParam

namespace Node

/-- Slots for parameters were added to a node, one after the other, and nothing else has changed. -/
structure Filled (before after : Node) (params : List SheetParam) : Prop where
  kept : after = { before with slots := after.slots }
  begins : before.slots.entries <+: after.slots.entries
  size : after.slots.entries.length = before.slots.entries.length + params.length
  slots : ∀ (position : Nat) (param : SheetParam), params[position]? = some param →
    param.BecomesSlot after (before.slots.entries.length + position)

variable {node after : Node} {param : SheetParam} {params : List SheetParam}

/-- The first slot is added before those of the other parameters. -/
theorem Filled.cons {content : ValueType × Option Value} (describes : param.Describes content)
    (filled : (node.add param.name content.1 content.2).1.Filled after params) :
    node.Filled after (param :: params) := by
  have entries : (node.add param.name content.1 content.2).1.slots.entries = node.slots.entries ++
      [⟨node.slots.allocate.1, node.freeName param.name none, content.1, content.2⟩] := rfl
  obtain ⟨more, whole⟩ := filled.begins
  have size := filled.size
  rw [entries] at whole
  rw [entries, List.length_append, List.length_singleton] at size
  refine ⟨?_, ?_, ?_, ?_⟩
  · rw [filled.kept]
    rfl
  · exact ⟨_, by rw [← whole, List.append_assoc]⟩
  · rw [size, List.length_cons]
    omega
  · intro position other placed
    cases position with
    | zero =>
      obtain rfl : param = other := by simpa using placed
      -- Nothing stands before the new slot but the slots that the node had.
      refine ⟨⟨node.slots.allocate.1, node.freeName param.name none, content.1, content.2⟩, ?_,
        describes, _, Slot.startsFrom_baseName param.name, ?_⟩
      · rw [← whole]
        simp
      · refine (firstFree_freeName node param.name none).congr ?_
        rw [upTo, ← whole]
        simp
    | succ position =>
      have later := filled.slots position other (by simpa using placed)
      rw [entries, List.length_append, List.length_singleton, Nat.add_assoc,
        Nat.add_comm 1] at later
      exact later

/-- Adding slots for parameters one after the other. -/
theorem foldlM_addTo_eq_ok (counted : node.Counted)
    (room : node.slots.entries.length + params.length < 4294967295)
    (done : params.foldlM (fun node param => param.addTo node) node = .ok after) :
    after.Counted ∧ node.Filled after params := by
  -- Each slot is added to the node that the ones before it have led to.
  induction params generalizing node with
  | nil =>
    cases done
    exact ⟨counted, rfl, List.prefix_rfl, rfl, by simp⟩
  | cons param rest ih =>
    rw [List.length_cons] at room
    obtain ⟨added, first, others⟩ := bind_eq_ok_iff.mp done
    dsimp only at first
    rw [SheetParam.addTo_eq counted.consistent (by omega), map_eq_ok_iff] at first
    obtain ⟨content, read, rfl⟩ := first
    have describes := SheetParam.content_eq_ok_iff.mp read
    have next := counted.add (by omega) param.name content.1 describes.typed
    have size : (node.add param.name content.1 content.2).1.slots.entries.length =
        node.slots.entries.length + 1 := by simp [Node.add, Slots.push]
    obtain ⟨last, filled⟩ := ih next (by omega) others
    exact ⟨last, filled.cons describes⟩

/-- Adding slots for parameters fails with the fault of the first that cannot be read. -/
theorem foldlM_addTo_eq_error_iff (counted : node.Counted)
    (room : node.slots.entries.length + params.length < 4294967295) {fault : SheetFault} :
    params.foldlM (fun node param => param.addTo node) node = .error fault ↔
      params.mapM SheetParam.content = .error fault := by
  induction params generalizing node with
  | nil => simp [Pure.pure, Except.pure]
  | cons param rest ih =>
    rw [List.length_cons] at room
    rw [List.foldlM_cons, List.mapM_cons, SheetParam.addTo_eq counted.consistent (by omega)]
    cases read : param.content with
    | error own => simp [Except.map, Bind.bind, Except.bind]
    | ok content =>
      -- The first parameter can be read, so the fault is that of a later one.
      have describes := SheetParam.content_eq_ok_iff.mp read
      have next := counted.add (by omega) param.name content.1 describes.typed
      have size : (node.add param.name content.1 content.2).1.slots.entries.length =
          node.slots.entries.length + 1 := by simp [Node.add, Slots.push]
      have others := ih next (by omega)
      show rest.foldlM _ (node.add param.name content.1 content.2).1 = _ ↔
        (rest.mapM SheetParam.content >>= fun contents => pure (content :: contents)) = _
      rw [others, bind_eq_error_iff]
      simp [pure_ne_error]

end Node

end CallChain

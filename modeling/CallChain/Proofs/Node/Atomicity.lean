import CallChain.Proofs.Node.Effects

/-! Every edit in place either has the effect of the operation that it is or names, or leaves the
node exactly as it was. -/

namespace CallChain

/-- The operation that a menu action names. -/
def MenuAction.operation : MenuAction → NodeEdit
  | add name type => .add name type
  | remove slot => .remove slot
  | rename slot name true => .renameFree slot name
  | rename slot name false => .rename slot name
  | retype slot type => .retype slot type

/-- No operation that is named is a menu action itself. -/
theorem MenuAction.operation_ne_menu (action other : MenuAction) :
    action.operation ≠ .menu other := by
  unfold operation
  split <;> simp

namespace NodeEdit

/-- The edit itself, or the operation that it names if it is a menu action. -/
def plain : NodeEdit → NodeEdit
  | menu action => action.operation
  | edit => edit

/-- What an edit makes of the answer of its operation. A menu action tells the slot that it made or
touched, and the warnings. -/
def told : NodeEdit → Answer → Answer
  | menu (.add _ _), .slot id => .outcome ⟨id, []⟩
  | menu (.retype slot _), .warnings warnings => .outcome ⟨slot, warnings⟩
  | menu (.remove slot), _ | menu (.rename slot _ _), _ => .outcome ⟨slot, []⟩
  | _, answer => answer

/-- Whether an operation can be carried out. -/
def Possible (node : Node) : NodeEdit → Prop
  | remove id | retype id _ => ∃ slot, node.slots.get? id = some slot
  | rename id name => Slot.isValidName (Text.trim name) = true ∧
      (∃ slot, node.slots.get? id = some slot) ∧ node.isTaken (Text.trim name) (some id) = false
  | renameFree id name => Slot.isValidName (Text.trim name) = true ∧
      ∃ slot, node.slots.get? id = some slot
  | setDefault id default => ∃ slot, node.slots.get? id = some slot ∧
      ∀ value, default = some value → value.type = slot.type
  | connect link => ∃ type, node.pinType? link.pin = some type ∧
      type.accepts link.sourceType = true
  | _ => True

/-- What an operation that succeeded has made of a node, and answered. -/
def Effect (before after : Node) : NodeEdit → Answer → Prop
  | add name type, .slot id =>
    before.Appended after ⟨id, before.freeName name none, type, none⟩
  | addDefault name default, .slot id =>
    before.Appended after ⟨id, before.freeName name none, default.type, some default⟩
  | remove id, .removed slot => before.Removed after id slot
  | rename id name, .done =>
    before.Changed after id fun slot => { slot with name := Text.trim name }
  | renameFree id name, .name used => used = before.freeName (some name) (some id) ∧
      before.Changed after id fun slot => { slot with name := used }
  | retype id type, .warnings _ => before.Retyped after id type
  | setDefault id default, .done => before.Changed after id fun slot => { slot with default }
  | setPath path, .done => after = { before with fixed := { before.fixed with path } }
  | setItemId itemId, .done => after = { before with fixed := { before.fixed with itemId } }
  | setPriority priority, .done => after = { before with fixed := { before.fixed with priority } }
  | connect link, .link previous => before.Connected after link previous
  | connectFixed pin source mode, .link previous =>
    before.Connected after ⟨.fixed pin, source, pin.type, mode⟩ previous
  | disconnect pin, .link previous => before.Disconnected after pin previous
  | _, _ => False

/-- Whether an operation leaves the slots in their places: all do but those that add or remove
one. -/
def KeepsOrder : NodeEdit → Prop
  | add _ _ | addDefault _ _ | remove _ => False
  | _ => True

variable {node after : Node} {edit : NodeEdit} {answer : Answer}

/-- An edit that succeeds has the effect of the operation it is or names, and says so. -/
theorem effect_perform (ids : (node.slots.entries.map Slot.id).Nodup)
    (pins : (node.links.map Link.pin).Nodup) {edit : NodeEdit} {answer : Answer}
    (done : node.perform edit = .ok (after, answer)) (itself : edit.plain = edit) :
    edit.Effect node after answer := by
  -- Each operation gives its answer to one constructor, which is taken off first.
  cases edit with
  | add name type | addDefault name default =>
    cases done
    exact ⟨rfl, rfl⟩
  | remove slot =>
    obtain ⟨⟨_, _⟩, removed, same⟩ := map_eq_ok_iff.mp done
    cases same
    exact Node.removed ids removed
  | rename slot name =>
    obtain ⟨_, renamed, same⟩ := map_eq_ok_iff.mp done
    cases same
    obtain ⟨_, held, _, rfl⟩ := Node.rename_eq_ok renamed
    obtain ⟨_, found⟩ := Option.isSome_iff_exists.mp held
    exact Node.changed ids found _
  | renameFree slot name =>
    obtain ⟨⟨_, _⟩, renamed, same⟩ := map_eq_ok_iff.mp done
    cases same
    exact Node.renamedFree ids renamed
  | retype slot type =>
    obtain ⟨⟨_, _⟩, retyped, same⟩ := map_eq_ok_iff.mp done
    cases same
    exact Node.retyped ids retyped
  | setDefault slot default =>
    obtain ⟨_, set, same⟩ := map_eq_ok_iff.mp done
    cases same
    obtain ⟨_, found, _, rfl⟩ := Node.setDefault_eq_ok set
    exact Node.changed ids found _
  | setPath path | setItemId itemId | setPriority priority =>
    cases done
    exact rfl
  | connect link =>
    obtain ⟨⟨_, _⟩, connected, same⟩ := map_eq_ok_iff.mp done
    cases same
    exact Node.connected pins connected
  | connectFixed pin source mode =>
    obtain ⟨⟨_, _⟩, connected, same⟩ := map_eq_ok_iff.mp done
    cases same
    exact Node.connected pins connected
  | disconnect pin =>
    cases done
    exact Node.disconnected pins pin
  | menu action => exact absurd itself (MenuAction.operation_ne_menu action action)

/-- An operation succeeds just if it can be carried out. -/
theorem perform_succeeds_iff {edit : NodeEdit} (itself : edit.plain = edit) :
    (∃ result, node.perform edit = .ok result) ↔ edit.Possible node := by
  cases edit with
  | add name type | addDefault name default => exact ⟨fun _ => trivial, fun _ => ⟨_, rfl⟩⟩
  | setPath path | setItemId itemId | setPriority priority =>
    exact ⟨fun _ => trivial, fun _ => ⟨_, rfl⟩⟩
  | disconnect pin => exact ⟨fun _ => trivial, fun _ => ⟨_, rfl⟩⟩
  | remove slot => exact map_succeeds_iff.trans Node.remove_succeeds_iff
  | rename slot name => exact map_succeeds_iff.trans Node.rename_succeeds_iff
  | renameFree slot name => exact map_succeeds_iff.trans Node.renameFree_succeeds_iff
  | retype slot type => exact map_succeeds_iff.trans Node.retype_succeeds_iff
  | setDefault slot default => exact map_succeeds_iff.trans Node.setDefault_succeeds_iff
  | connect link => exact map_succeeds_iff.trans Node.connect_succeeds_iff
  | connectFixed pin source mode =>
    -- The source is declared to be of the type of the pin.
    have fits : pin.type.accepts pin.type = true := by simp [ValueType.accepts]
    exact ⟨fun _ => trivial, fun _ => map_succeeds_iff.mpr
      (Node.connect_succeeds_iff.mpr ⟨pin.type, rfl, fits⟩)⟩
  | menu action => exact absurd itself (MenuAction.operation_ne_menu action action)

/-- Every effect keeps the id of the node and one link to a pin at most, and all but additions and
removals keep the slots in their places. -/
theorem Effect.keeps (pins : (node.links.map Link.pin).Nodup)
    (effect : edit.Effect node after answer) :
    node.Kept after ∧ (edit.KeepsOrder → node.InPlaces after) := by
  -- An answer of the wrong kind has no effect to look at.
  cases edit with
  | add name type | addDefault name default =>
    cases answer with
    | slot id => exact ⟨effect.kept pins, False.elim⟩
    | _ => exact effect.elim
  | remove id =>
    cases answer with
    | removed slot => exact ⟨effect.kept pins, False.elim⟩
    | _ => exact effect.elim
  | rename id name | setDefault id default =>
    cases answer with
    | done => exact ⟨effect.kept pins, fun _ => effect.inPlaces fun _ => rfl⟩
    | _ => exact effect.elim
  | renameFree id name =>
    cases answer with
    | name used =>
      obtain ⟨_, renamed⟩ := effect
      exact ⟨renamed.kept pins, fun _ => renamed.inPlaces fun _ => rfl⟩
    | _ => exact effect.elim
  | retype id type =>
    cases answer with
    | warnings warnings => exact ⟨effect.kept pins, fun _ => effect.inPlaces⟩
    | _ => exact effect.elim
  | setPath path | setItemId itemId | setPriority priority =>
    cases answer with
    | done =>
      have whole : after = { node with fixed := _ } := effect
      rw [whole]
      exact ⟨⟨rfl, pins⟩, fun _ => rfl⟩
    | _ => exact effect.elim
  | connect link | connectFixed pin source mode =>
    cases answer with
    | link previous => exact ⟨effect.kept pins, fun _ => effect.inPlaces⟩
    | _ => exact effect.elim
  | disconnect pin =>
    cases answer with
    | link previous => exact ⟨effect.kept pins, fun _ => effect.inPlaces⟩
    | _ => exact effect.elim
  | menu action => exact effect.elim

/-- What an edit names is an operation itself. -/
theorem plain_plain (edit : NodeEdit) : edit.plain.plain = edit.plain := by
  cases edit with
  | menu action =>
    rcases action with _ | _ | ⟨_, _, _ | _⟩ | _ <;> rfl
  | _ => rfl

/-- An edit gives the node that its operation gives, and is refused with its faults. -/
theorem perform_told (edit : NodeEdit) (node : Node) : node.perform edit =
    (node.perform edit.plain).map fun (after, answer) => (after, edit.told answer) := by
  have unchanged (result : Except NodeFault (Node × Answer)) :
      result = result.map fun (after, answer) => (after, answer) := by
    cases result <;> rfl
  -- An operation names itself, so there is something to show for menu actions only.
  cases edit with
  | menu action =>
    -- The action drops the answer and tells the slot instead.
    cases action with
    | add name type => rfl
    | remove slot =>
      simp only [plain, MenuAction.operation, Node.perform, MenuAction.apply]
      cases node.remove slot <;> rfl
    | rename slot name autoSuffix =>
      cases autoSuffix with
      | true =>
        simp only [plain, MenuAction.operation, Node.perform, MenuAction.apply]
        cases node.renameFree slot name <;> rfl
      | false =>
        simp only [plain, MenuAction.operation, Node.perform, MenuAction.apply]
        cases node.rename slot name <;> rfl
    | retype slot type =>
      simp only [plain, MenuAction.operation, Node.perform, MenuAction.apply]
      cases node.retype slot type <;> rfl
  | _ => exact unchanged _

/-- An edit in place does what its operation does in place. -/
theorem run_told (edit : NodeEdit) (node : Node) :
    edit.inPlace.run node = (edit.told <$> edit.plain.inPlace).run node := by
  rw [map_eq_pure_bind, EStateM.run_bind, run_inPlace, run_inPlace, perform_told]
  cases node.perform edit.plain <;> rfl

/-- On a node with different slot ids and one link to a pin at most, every edit does in place what
the operation does that it is or names, and answers from what that answers. If it is refused, it
leaves the node exactly as it was, and it is refused just if the operation cannot be carried out.
Otherwise the operation has its own effect on the slots and on the links and no other; the node
keeps its id and one link to a pin at most, and unless a slot is added or removed the slots stay in
their places. -/
theorem edit_in_place (node : Node) (ids : (node.slots.entries.map Slot.id).Nodup)
    (pins : (node.links.map Link.pin).Nodup) (edit : NodeEdit) :
    (edit.inPlace.run node = (edit.told <$> edit.plain.inPlace).run node) ∧
    (∀ fault after, edit.inPlace.run node = .error fault after → after = node) ∧
    ((∃ answer after, edit.inPlace.run node = .ok answer after) ↔ edit.plain.Possible node) ∧
    ∀ answer after, edit.plain.inPlace.run node = .ok answer after →
      edit.plain.Effect node after answer ∧
      after.id = node.id ∧ (after.links.map Link.pin).Nodup ∧
      (edit.plain.KeepsOrder →
        after.slots.entries.map Slot.id = node.slots.entries.map Slot.id) := by
  have itself := plain_plain edit
  refine ⟨run_told edit node, ?_, ?_, ?_⟩
  · -- A fault comes before any change.
    intro fault after refused
    rw [run_inPlace] at refused
    exact Node.settled_eq_error refused
  · -- Whether an edit succeeds is decided by its operation.
    rw [← perform_succeeds_iff itself]
    simp only [run_inPlace, perform_told edit]
    cases node.perform edit.plain <;> simp [Except.map, Node.settled]
  · -- What is kept follows from the effect alone.
    intro answer after done
    rw [run_inPlace] at done
    have effect := effect_perform ids pins (Node.settled_eq_ok done) itself
    obtain ⟨⟨id, single⟩, places⟩ := effect.keeps pins
    exact ⟨effect, id, single, places⟩

/-- A dialog whose first slot is linked. -/
def dialog : Node where
  id := "dialog"
  fixed := ⟨some "UI", none, some 0⟩
  slots := ⟨[⟨⟨0⟩, "Title", .string, some (.string "Hi")⟩, ⟨⟨1⟩, "Text", .string, none⟩], 2⟩
  links := [⟨.slot ⟨0⟩, ⟨"menu", "text"⟩, .string, .shared⟩]

/-- Another link into its first slot. -/
def titleFromShop : Link := ⟨.slot ⟨0⟩, ⟨"shop", "name"⟩, .string, .exclusive⟩

/-- A link into the title of the dialog replaces the one that was there, and tells it. A menu action
that removes the title takes the link along, and one that removes a missing slot is refused. -/
theorem edit_in_place_dialog :
    (dialog.slots.entries.map Slot.id).Nodup ∧ (dialog.links.map Link.pin).Nodup ∧
    (∃ after previous, (connect titleFromShop).inPlace.run dialog = .ok (.link previous) after ∧
      previous.isSome ∧ dialog.Connected after titleFromShop previous) ∧
    (∃ after, (menu (.remove ⟨0⟩)).inPlace.run dialog = .ok (.outcome ⟨⟨0⟩, []⟩) after ∧
      ∃ slot, dialog.Removed after ⟨0⟩ slot) ∧
    ¬ ∃ answer after, (menu (.remove ⟨2⟩)).inPlace.run dialog = .ok answer after := by
  have ids : (dialog.slots.entries.map Slot.id).Nodup := by decide
  have pins : (dialog.links.map Link.pin).Nodup := by decide
  refine ⟨ids, pins, ⟨_, _, rfl, rfl, ?_⟩, ⟨_, rfl, ?_⟩, ?_⟩
  · obtain ⟨_, _, _, effects⟩ := edit_in_place dialog ids pins (connect titleFromShop)
    exact (effects _ _ rfl).1
  · obtain ⟨_, _, _, effects⟩ := edit_in_place dialog ids pins (menu (.remove ⟨0⟩))
    exact ⟨_, (effects (.removed _) _ rfl).1⟩
  · obtain ⟨_, _, possible, _⟩ := edit_in_place dialog ids pins (menu (.remove ⟨2⟩))
    rw [possible]
    rintro ⟨slot, found⟩
    cases found

end NodeEdit

end CallChain

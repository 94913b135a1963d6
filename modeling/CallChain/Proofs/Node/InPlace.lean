import CallChain.Node.InPlace
import CallChain.Proofs.Node.Slots

/-! Edits in place: a refusal leaves the node as it was, and what an edit that succeeds leaves
behind is the node that the operations give as a result. -/

namespace CallChain

/-- What an operation comes to in place when a refusal leaves the node as it was. -/
def Node.settled {β : Type} (node : Node) :
    Except NodeFault (Node × β) → EStateM.Result NodeFault Node β
  | .ok (after, answer) => .ok answer after
  | .error fault => .error fault node

/-- What succeeds in place is what succeeds otherwise. -/
theorem Node.settled_eq_ok {β : Type} {node after : Node} {answer : β}
    {result : Except NodeFault (Node × β)} (done : node.settled result = .ok answer after) :
    result = .ok (after, answer) := by
  cases result with
  | error fault => cases done
  | ok outcome =>
    cases done
    rfl

/-- What is refused in place has left the node as it was. -/
theorem Node.settled_eq_error {β : Type} {node after : Node} {fault : NodeFault}
    {result : Except NodeFault (Node × β)} (refused : node.settled result = .error fault after) :
    after = node := by
  cases result with
  | error fault =>
    cases refused
    rfl
  | ok outcome => cases refused

namespace Slots

variable {table : Slots} {id : SlotId}

/-- Two changes of a slot, the first of which keeps its id, are one change after the other. -/
theorem modifyFirst_modifyFirst {first second : Slot → Slot}
    (keeps : ∀ slot, (first slot).id = slot.id) (slots : List Slot) :
    modifyFirst second id (modifyFirst first id slots) =
      modifyFirst (fun slot => second (first slot)) id slots := by
  induction slots with
  | nil => rfl
  | cons slot rest ih =>
    by_cases found : slot.id = id
    · simp [modifyFirst, found, keeps]
    · simp [modifyFirst, found, ih]

/-- Two changes of a slot, the first of which keeps its id, are one change after the other. -/
theorem modify_modify {first second : Slot → Slot} (keeps : ∀ slot, (first slot).id = slot.id) :
    (table.modify id first).modify id second =
      table.modify id fun slot => second (first slot) := by
  unfold modify
  rw [modifyFirst_modifyFirst keeps]

/-- A change that leaves the slot with an id as it is leaves the table as it is. -/
theorem modify_eq_self {change : Slot → Slot} {slot : Slot} (found : table.get? id = some slot)
    (same : change slot = slot) : table.modify id change = table := by
  obtain ⟨entries, nextId⟩ := table
  have kept : modifyFirst change id entries = entries := by
    unfold get? at found
    simp only at found
    induction entries with
    | nil => rfl
    | cons first rest ih =>
      by_cases here : first.id = id
      · -- The first slot with the id is the one that was found.
        have own : first = slot := by simpa [here] using found
        rw [modifyFirst, if_pos here, own, same]
      · have later : rest.find? (fun slot => slot.id == id) = some slot := by
          simpa [here] using found
        simp [modifyFirst, here, ih later]
  unfold modify
  rw [kept]

/-- A slot that is changed, but for its id, is found as changed. -/
theorem get?_modify_self {change : Slot → Slot} (keeps : ∀ slot, (change slot).id = slot.id)
    {slot : Slot} (found : table.get? id = some slot) :
    (table.modify id change).get? id = some (change slot) := by
  rw [get?_modify keeps, found, Option.map_some, if_pos (get?_eq_some found).2]

end Slots

namespace Editing

variable {node : Node} {id : SlotId}

/-- A refusal stops the work where it stands. -/
@[simp] theorem run_refuse {β : Type} (fault : NodeFault) :
    (throw fault : Editing β).run node = .error fault node :=
  rfl

/-- A slot that exists is found, and a missing one refused. -/
theorem run_slotOf : (slotOf id).run node =
    match node.slots.get? id with
    | some slot => .ok slot node
    | none => .error (.slotNotFound id) node := by
  simp only [slotOf, EStateM.run_bind, EStateM.run_get]
  cases node.slots.get? id <;> rfl

/-- A slot that exists is changed. -/
theorem run_changeSlot {slot : Slot} (found : node.slots.get? id = some slot)
    (change : Slot → Slot) : (changeSlot id change).run node =
      .ok () { node with slots := node.slots.modify id change } := by
  simp only [changeSlot, EStateM.run_bind, run_slotOf, found]
  rfl

/-- Removing a slot in place gives the node without the slot and its links. -/
theorem run_remove : (remove id).run node = node.settled (node.remove id) := by
  -- The only fault comes before the slot is taken out.
  simp only [remove, EStateM.run_bind, EStateM.run_get, Node.remove]
  cases node.slots.remove? id <;> rfl

/-- Renaming a slot in place gives the node with the slot renamed. -/
theorem run_rename (newName : String) :
    (rename id newName).run node = node.settled ((node.rename id newName).map (·, ())) := by
  simp only [rename, Node.rename]
  -- Three checks stand in front of the change.
  cases valid : Slot.isValidName (Text.trim newName) with
  | false => rfl
  | true =>
    cases found : node.slots.get? id with
    | none => simp [run_slotOf, found, Slots.holds, Except.map, Node.settled]
    | some slot =>
      cases taken : node.isTaken (Text.trim newName) (some id) with
      | true => simp [run_slotOf, found, taken, Slots.holds, Except.map, Node.settled]
      | false =>
        simp [run_slotOf, run_changeSlot found, found, taken, Slots.holds, Except.map,
          Node.settled]

/-- Renaming a slot to a free form of a name in place gives the node with the slot renamed. -/
theorem run_renameFree (newName : String) :
    (renameFree id newName).run node = node.settled (node.renameFree id newName) := by
  simp only [renameFree, Node.renameFree]
  cases Slot.isValidName (Text.trim newName) with
  | false => rfl
  | true =>
    simp only [Bool.not_true, Bool.false_eq_true, if_false, EStateM.run_bind, EStateM.run_get,
      EStateM.run_pure, run_rename]
    cases node.rename id (node.freeName (some newName) (some id)) <;> rfl

/-- Converting the literal of a slot changes no more than the literal. -/
theorem run_convertDefault {slot : Slot} (found : node.slots.get? id = some slot)
    (newType : ValueType) :
    let default := slot.default.bind fun value => value.coerce? newType
    (convertDefault id newType).run node =
      .ok (if slot.default.isSome && default.isNone then [.defaultDiscarded slot.name newType]
        else []) { node with slots := node.slots.modify id fun slot => { slot with default } } := by
  intro default
  simp only [convertDefault, EStateM.run_bind, run_slotOf, found]
  cases literal : slot.default with
  | none =>
    -- There is no literal, and setting none makes no difference.
    have unset : default = slot.default := by simp [default, literal]
    have kept : node.slots.modify id (fun slot => { slot with default }) = node.slots :=
      Slots.modify_eq_self found (by rw [unset])
    simp [kept]
  | some value =>
    have converted : default = value.coerce? newType := by simp [default, literal]
    simp only [EStateM.run_bind, run_changeSlot found, EStateM.run_pure, Option.isSome_some,
      Bool.true_and, converted]

/-- Giving a slot another type in place, step by step, gives the node with all of it done. -/
theorem run_retype (newType : ValueType) :
    (retype id newType).run node = node.settled (node.retype id newType) := by
  simp only [retype, Node.retype, EStateM.run_bind, run_slotOf]
  cases found : node.slots.get? id with
  | none => rfl
  | some slot =>
    simp only
    split
    next => rfl
    next other =>
      -- The slot has its new type already when its literal is converted, so the slot is changed
      -- twice, and both changes together are the one of the operation.
      have keeps : ∀ slot : Slot, { slot with type := newType }.id = slot.id := fun _ => rfl
      have changed := Slots.get?_modify_self keeps found
      let typed : Node :=
        { node with slots := node.slots.modify id fun slot => { slot with type := newType } }
      have converted : (convertDefault id newType).run typed = _ :=
        run_convertDefault changed newType
      simp only [EStateM.run_bind, run_changeSlot found]
      rw [show (convertDefault id newType).run _ = _ from converted]
      simp only [EStateM.run_get, retainLinks, EStateM.run_modify, EStateM.run_pure, Node.settled,
        typed, Slots.modify_modify keeps]

/-- Setting the literal of a slot in place gives the node with the literal set. -/
theorem run_setDefault (default : Option Value) :
    (setDefault id default).run node = node.settled ((node.setDefault id default).map (·, ())) := by
  simp only [setDefault, Node.setDefault, EStateM.run_bind, run_slotOf]
  cases found : node.slots.get? id with
  | none => rfl
  | some slot =>
    simp only
    cases default.filter fun value => value.type != slot.type with
    | some value => rfl
    | none =>
      simp only [run_changeSlot found]
      rfl

/-- Freeing a pin is never refused, and leaves the node as it is when there is no link. -/
theorem run_disconnect (pin : Pin) :
    (disconnect pin).run node = .ok (node.disconnect pin).2 (node.disconnect pin).1 := by
  simp only [disconnect, Node.disconnect, EStateM.run_bind, EStateM.run_get]
  cases linked : node.link? pin with
  | some link => rfl
  | none =>
    -- No link is on the pin, so taking the first one out takes none.
    have kept : node.links.eraseP (fun link => link.pin == pin) = node.links :=
      List.eraseP_of_forall_not fun link member => by
        simpa using List.find?_eq_none.mp linked link member
    simp [kept]

/-- The type of a pin is found in place as it is otherwise. -/
theorem run_typeOf (pin : Pin) : (typeOf pin).run node =
    match node.requiredType pin with
    | .ok type => .ok type node
    | .error fault => .error fault node := by
  cases pin with
  | fixed pin => rfl
  | slot id =>
    simp only [typeOf, Node.requiredType, EStateM.run_bind, run_slotOf]
    cases node.slots.get? id <;> rfl

/-- Linking an output in place, first freeing the pin, gives the node with the link. -/
theorem run_connect (link : Link) :
    (connect link).run node = node.settled (node.connect link) := by
  have linked : node.connect link = (node.requiredType link.pin).bind fun expected =>
      if expected.accepts link.sourceType then
        let freed := (node.disconnect link.pin).1
        .ok ({ freed with links := freed.links ++ [link] }, (node.disconnect link.pin).2)
      else .error (.incompatibleLink (node.pinName link.pin) expected link.sourceType) := rfl
  simp only [connect, EStateM.run_bind, run_typeOf, linked]
  -- Both faults come before the pin is freed.
  cases node.requiredType link.pin with
  | error fault => rfl
  | ok expected =>
    cases fits : expected.accepts link.sourceType with
    | false => simp [fits, Except.bind, Node.settled]
    | true =>
      simp only [Except.bind, fits, Bool.not_true, Bool.false_eq_true, if_false, if_true,
        EStateM.run_bind, run_disconnect]
      rfl

variable {β γ : Type} {work : Editing β} {result : Except NodeFault (Node × β)}

/-- Work whose answer is told in other words gives the node that the operation gives. -/
theorem run_tell (runs : work.run node = node.settled result) (tell : β → γ) :
    (work >>= fun answer => pure (tell answer)).run node =
      node.settled (result.map fun (after, answer) => (after, tell answer)) := by
  rw [EStateM.run_bind, runs]
  cases result <;> rfl

/-- Work that tells nothing of itself gives the node that the operation gives. -/
theorem run_conclude {work : Editing Unit} {result : Except NodeFault Node}
    (runs : work.run node = node.settled (result.map (·, ()))) (answer : γ) :
    (work >>= fun _ => pure answer).run node = node.settled (result.map (·, answer)) := by
  rw [EStateM.run_bind, runs]
  cases result <;> rfl

end Editing

/-- A menu action in place gives the node and the outcome that the action has. -/
theorem MenuAction.run_inPlace (action : MenuAction) (node : Node) :
    action.inPlace.run node = node.settled (action.apply node) := by
  cases action with
  | add name type => rfl
  | remove slot => exact Editing.run_tell Editing.run_remove fun _ => Outcome.mk slot []
  | rename slot name autoSuffix =>
    cases autoSuffix with
    | true => exact Editing.run_tell (Editing.run_renameFree name) fun _ => Outcome.mk slot []
    | false => exact Editing.run_conclude (Editing.run_rename name) (Outcome.mk slot [])
  | retype slot type => exact Editing.run_tell (Editing.run_retype type) (Outcome.mk slot)

/-- An edit in place gives the node and the answer that the edit has, and a refusal leaves the node
as it was. -/
theorem NodeEdit.run_inPlace (edit : NodeEdit) (node : Node) :
    edit.inPlace.run node = node.settled (node.perform edit) := by
  -- Each edit is its operation in place, and then the answer is put together.
  cases edit with
  | add name type | addDefault name default => rfl
  | setPath path | setItemId itemId | setPriority priority => rfl
  | remove slot => exact Editing.run_tell Editing.run_remove Answer.removed
  | rename slot name => exact Editing.run_conclude (Editing.run_rename name) Answer.done
  | renameFree slot name => exact Editing.run_tell (Editing.run_renameFree name) Answer.name
  | retype slot type => exact Editing.run_tell (Editing.run_retype type) Answer.warnings
  | setDefault slot default =>
    exact Editing.run_conclude (Editing.run_setDefault default) Answer.done
  | connect link => exact Editing.run_tell (Editing.run_connect link) Answer.link
  | connectFixed pin source mode => exact Editing.run_tell (Editing.run_connect _) Answer.link
  | disconnect pin =>
    -- Nothing is ever refused here, whether there is a link or not.
    have freed : (Editing.disconnect pin).run node = node.settled (.ok (node.disconnect pin)) :=
      Editing.run_disconnect pin
    exact Editing.run_tell freed Answer.link
  | menu action => exact Editing.run_tell (action.run_inPlace node) Answer.outcome

end CallChain

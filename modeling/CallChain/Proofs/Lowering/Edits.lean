import CallChain.Proofs.Lowering.Values
import CallChain.Proofs.Node.Effects
import CallChain.Proofs.Node.Preservation

/-! Edits of nodes: each of them changes the plan of a node only where it changes the node. -/

namespace CallChain

namespace Plan

/-- The property steps of slots are followed by those of the slots after them. -/
theorem propertySteps_append (position : Nat) (pairs others : List (Slot × Feed)) :
    propertySteps position (pairs ++ others) =
      propertySteps position pairs ++ propertySteps (position + pairs.length) others := by
  induction pairs generalizing position with
  | nil => rfl
  | cons pair rest ih =>
    rw [List.cons_append, propertySteps, propertySteps, ih, List.cons_append, List.length_cons,
      Nat.add_assoc, Nat.add_comm 1]

/-- Property steps can be changed where they stand, or be made for other slots. -/
theorem map_propertySteps {change : Step → Step} {renew : Slot × Feed → Slot × Feed}
    {pairs : List (Slot × Feed)}
    (same : ∀ position, ∀ pair ∈ pairs, change (propertyStep position pair.1 pair.2) =
      propertyStep position (renew pair).1 (renew pair).2) (position : Nat) :
    (propertySteps position pairs).map change = propertySteps position (pairs.map renew) := by
  induction pairs generalizing position with
  | nil => rfl
  | cons pair rest ih =>
    have tail := ih (fun position other member => same position other (by simp [member]))
      (position + 1)
    rw [propertySteps, List.map_cons, List.map_cons, propertySteps, tail,
      same position pair (by simp)]

/-- Where the step of a slot is gone, that of a later slot gets the number before its own. -/
theorem without_propertyId {gone position : Nat} (after : gone ≤ position)
    (small : position + 1 < 4294967294) :
    (propertyId gone).without (propertyId (position + 1)) = propertyId position := by
  have first := propertyId_toNat (show gone < 4294967294 by omega)
  have old := propertyId_toNat small
  have new := propertyId_toNat (show position < 4294967294 by omega)
  have later : (propertyId gone).raw < (propertyId (position + 1)).raw := by
    rw [UInt32.lt_iff_toNat_lt]
    omega
  have number := StepId.without_toNat later
  have same : ((propertyId gone).without (propertyId (position + 1))).raw =
      (propertyId position).raw := by
    rw [← UInt32.toNat_inj]
    omega
  exact congrArg StepId.mk same

/-- Where the step of a slot is gone, those of later slots move up by one. -/
theorem renumber_propertySteps {gone : Nat} (position : Nat) (pairs : List (Slot × Feed))
    (after : gone ≤ position) (small : position + 1 + pairs.length ≤ 4294967294) :
    (propertySteps (position + 1) pairs).map (Step.renumber (propertyId gone).without) =
      propertySteps position pairs := by
  induction pairs generalizing position with
  | nil => rfl
  | cons pair rest ih =>
    rw [List.length_cons] at small
    have number := without_propertyId after (by omega)
    have tail := ih (position + 1) (by omega) (by omega)
    rw [propertySteps, List.map_cons, propertySteps, tail, Step.renumber, propertyStep_id, number]
    rfl

/-- The steps of slots with other ids were not made for a slot. -/
theorem filter_propertySteps_eq_nil {id : SlotId} {pairs : List (Slot × Feed)}
    (others : ∀ pair ∈ pairs, pair.1.id ≠ id) (position : Nat) :
    (propertySteps position pairs).filter (fun step => step.origin = some id) = [] := by
  rw [List.filter_eq_nil_iff]
  intro step member
  obtain ⟨offset, slot, value, placed, rfl⟩ := mem_propertySteps_iff.mp member
  simpa [propertyStep] using others _ (List.mem_of_getElem? placed)

end Plan

namespace Node

variable {node after : Node} {feeds : Feeds} {plan : Plan} {id : SlotId} {slot : Slot}

/-- The step of a slot stands between those of the slots around it, and is the only one that was
made for the slot. -/
theorem Lowers.steps_split (lowers : node.Lowers feeds plan)
    (ids : (node.slots.entries.map Slot.id).Nodup) (found : node.slots.get? id = some slot) :
    ∃ before rest, node.slots.entries = before ++ slot :: rest ∧
      (∀ other ∈ before, other.id ≠ id) ∧ (∀ other ∈ rest, other.id ≠ id) ∧
      plan.steps = (Plan.headSteps feeds ++ Plan.propertySteps 0 (before.map node.fed)) ++
        Plan.propertyStep before.length slot (node.feedOf slot) ::
          Plan.propertySteps (before.length + 1) (rest.map node.fed) ∧
      plan.madeFor id = [Plan.propertyStep before.length slot (node.feedOf slot)] := by
  obtain ⟨member, own⟩ := Slots.get?_eq_some found
  obtain ⟨before, rest, entries⟩ := List.append_of_mem member
  rw [entries, List.map_append, List.map_cons, own] at ids
  -- The id occurs just once, so it is neither among those before nor among those after.
  have once := (List.nodup_cons.mp (List.nodup_middle.mp ids)).1
  simp only [List.mem_append, List.mem_map, not_or, not_exists, not_and] at once
  obtain ⟨early, late⟩ := once
  have split : plan.steps = (Plan.headSteps feeds ++ Plan.propertySteps 0 (before.map node.fed)) ++
      Plan.propertyStep before.length slot (node.feedOf slot) ::
        Plan.propertySteps (before.length + 1) (rest.map node.fed) := by
    rw [lowers.steps_eq, fedSlots, entries, List.map_append, List.map_cons,
      Plan.propertySteps_append, fed, Plan.propertySteps, List.length_map, Nat.zero_add,
      List.append_assoc]
  refine ⟨before, rest, entries, early, late, split, ?_⟩
  rw [Plan.madeFor, split, List.filter_append, List.filter_append, List.filter_cons,
    Plan.filter_propertySteps_eq_nil (by simpa using early),
    Plan.filter_propertySteps_eq_nil (by simpa using late)]
  simp [Plan.headSteps, Plan.locateStep, Plan.createStep, Plan.propertyStep, own]

/-- A slot is fed over a link just if it is linked. -/
theorem source?_feedOf (node : Node) (slot : Slot) :
    (node.feedOf slot).source? = (node.link? (.slot slot.id)).map Link.source := by
  cases linked : node.link? (.slot slot.id) with
  | none =>
    rw [feedOf_unlinked slot linked]
    rfl
  | some link =>
    rw [feedOf_linked slot linked]
    rfl

/-- Which links a property step reads depends on the slot it was made for and on its link. -/
theorem intakes_propertyStep (position : Nat) (slot : Slot) (value : Feed) :
    (Plan.propertyStep position slot value).intakes = value.source?.toList.map fun source =>
      ⟨.slot slot.id, source, Plan.propertyId position, .value⟩ := by
  cases value <;> rfl

section Changed

variable {change : Slot → Slot} {revision : Step → Step}

/-- A revision of steps does to the step of a slot what a change does to the slot itself. -/
def Revises (node : Node) (id : SlotId) (change : Slot → Slot) (revision : Step → Step) : Prop :=
  ∀ position, ∀ slot ∈ node.slots.entries, slot.id = id →
    revision (Plan.propertyStep position slot (node.feedOf slot)) =
      Plan.propertyStep position (change slot) (node.feedOf (change slot))

/-- Where a slot is changed, every link stays. -/
theorem Changed.link?_eq (effect : node.Changed after id change) : after.link? = node.link? := by
  rw [effect.whole]
  rfl

/-- A slot that is changed keeps the type of its pin if it keeps its own. -/
theorem Changed.pinType?_eq (effect : node.Changed after id change)
    (keeps : ∀ slot, (change slot).id = slot.id ∧ (change slot).type = slot.type) (pin : Pin) :
    after.pinType? pin = node.pinType? pin := by
  cases pin with
  | fixed => rfl
  | slot other =>
    -- The look-up compares ids and gives a type, and both are the same as before.
    have sameId : ((fun slot => slot.id == other) ∘ fun slot : Slot =>
        if slot.id = id then change slot else slot) = fun slot => slot.id == other := by
      funext slot
      by_cases here : slot.id = id <;> simp [here, keeps]
    have sameType : (Slot.type ∘ fun slot : Slot => if slot.id = id then change slot else slot) =
        Slot.type := by
      funext slot
      by_cases here : slot.id = id <;> simp [here, keeps]
    rw [effect.whole, pinType?, pinType?, Slots.get?, Slots.get?, List.find?_map, sameId,
      Option.map_map, sameType]

/-- Where a slot is changed, the other slots are fed as before. -/
theorem Changed.fedSlots_eq (effect : node.Changed after id change) :
    after.fedSlots = node.fedSlots.map fun pair =>
      node.fed (if pair.1.id = id then change pair.1 else pair.1) := by
  have alike : after.fed = node.fed := by
    funext slot
    rw [fed, fed, feedOf, feedOf, effect.link?_eq]
  rw [fedSlots, alike, effect.whole, fedSlots, List.map_map, List.map_map]
  rfl

/-- The links of slots that are changed fit as before. -/
theorem Changed.fits (lowers : node.Lowers feeds plan) (effect : node.Changed after id change)
    (keeps : ∀ slot, (change slot).id = slot.id ∧ (change slot).type = slot.type) :
    ∀ slot ∈ after.slots.entries, after.Fits (.slot slot.id) := by
  intro slot member link linked
  rw [effect.whole] at member
  obtain ⟨former, placed, rfl⟩ := List.mem_map.mp member
  have same : (if former.id = id then change former else former).id = former.id := by
    split
    · exact (keeps former).1
    · rfl
  rw [same, effect.link?_eq] at linked
  rw [same, effect.pinType?_eq keeps]
  exact lowers.fits placed link linked

/-- The steps after a change are the steps before it with those of the slot revised. -/
theorem Lowers.steps_revise (lowers : node.Lowers feeds plan)
    (effect : node.Changed after id change) (revises : node.Revises id change revision) :
    (plan.revise id revision).steps =
      Plan.headSteps feeds ++ Plan.propertySteps 0 after.fedSlots := by
  have each : (plan.revise id revision).steps =
    plan.steps.map fun step => if step.origin = some id then revision step else step := rfl
  rw [each, lowers.steps_eq, List.map_append, effect.fedSlots_eq]
  -- The head steps were made for no slot, so it is the property steps that may differ.
  congr 1
  refine Plan.map_propertySteps (fun position pair member => ?_) 0
  obtain ⟨slot, placed, rfl⟩ := List.mem_map.mp member
  by_cases own : slot.id = id
  · simpa [Plan.propertyStep, own] using revises position slot placed own
  · simp [Plan.propertyStep, own]

/-- The steps of a slot that keeps its id are revised without touching what they read. -/
theorem Lowers.regular_revise (lowers : node.Lowers feeds plan)
    (keeps : ∀ slot, (change slot).id = slot.id) (revises : node.Revises id change revision) :
    (plan.revise id revision).Regular ∧ (plan.revise id revision).intakes = plan.intakes := by
  refine lowers.regular.revise fun step member own => ?_
  rcases lowers.mem_steps_iff.mp member with
    rfl | rfl | ⟨position, slot, value, placed, valued, rfl⟩
  · cases own
  · cases own
  · rw [lowers.values_eq, List.getElem?_map, placed] at valued
    obtain rfl := Option.some.inj valued
    have here : slot.id = id := Option.some.inj own
    rw [revises position slot (List.mem_of_getElem? placed) here]
    refine ⟨rfl, ?_⟩
    rw [intakes_propertyStep, intakes_propertyStep, source?_feedOf, source?_feedOf, keeps]

/-- A slot that is changed, but for its id and type, changes its own step and nothing else. -/
theorem Lowers.lower_changed (lowers : node.Lowers feeds plan)
    (effect : node.Changed after id change)
    (keeps : ∀ slot, (change slot).id = slot.id ∧ (change slot).type = slot.type)
    (revises : node.Revises id change revision) :
    after.lower = .ok (plan.revise id revision) := by
  have wiring := effect.link?_eq
  have steps := lowers.steps_revise effect revises
  obtain ⟨regular, intakes⟩ := lowers.regular_revise (fun slot => (keeps slot).1) revises
  refine lowers.lower_eq_of_regular ?_ rfl steps regular ?_ ?_ (effect.fits lowers keeps) ?_ ?_
  · rw [effect.whole]
    exact lowers.nodeId
  · rw [effect.whole]
  · rw [wiring]
    exact fun _ => rfl
  · rw [wiring]
    exact fun _ _ linked => linked
  · rw [intakes]
    exact fun _ => le_rfl

end Changed

/-- A slot that is added gets a step after all others, which sets its property to zero. -/
theorem Lowers.lower_added (lowers : node.Lowers feeds plan) (consistent : node.Consistent)
    (small : node.slots.entries.length < 4294967294) (proposed : Option String)
    (type : ValueType) :
    (node.add proposed type none).1.lower = .ok (plan.extend
      (plan.newStep (node.add proposed type none).2 (node.freeName proposed none) type)) := by
  let new : Slot := ⟨node.slots.allocate.1, node.freeName proposed none, type, none⟩
  have unlinked : node.link? (.slot new.id) = none := consistent.link?_allocate (by omega)
  have slots : (node.add proposed type none).1.fedSlots =
      node.fedSlots ++ [(new, node.feedOf new)] := List.map_append
  have last : plan.newStep (node.add proposed type none).2 (node.freeName proposed none) type =
      Plan.propertyStep node.slots.entries.length new (node.feedOf new) := by
    rw [Plan.newStep, lowers.length_steps, feedOf_unlinked new unlinked]
    rfl
  have steps : plan.steps ++ [Plan.propertyStep node.slots.entries.length new (node.feedOf new)] =
      Plan.headSteps feeds ++
        Plan.propertySteps 0 (node.add proposed type none).1.fedSlots := by
    rw [slots, Plan.propertySteps_append, lowers.steps_eq, List.append_assoc, length_fedSlots,
      Nat.zero_add]
    rfl
  -- The new step is fed with a literal, so no link is handed over to it.
  have silent :
      (Plan.propertyStep node.slots.entries.length new (node.feedOf new)).intakes = [] := by
    rw [intakes_propertyStep, source?_feedOf, unlinked]
    rfl
  obtain ⟨regular, intakes⟩ := lowers.regular.extend (Plan.propertyId_ne_createId small) silent
  rw [last]
  refine lowers.lower_eq_of_regular lowers.nodeId rfl steps regular rfl (fun _ => rfl) ?_
    (fun _ _ linked => linked) fun _ => intakes ▸ le_rfl
  -- The links lead to the old slots, whose types are the same.
  intro slot member link linked
  rcases List.mem_append.mp member with old | added
  · obtain ⟨expected, typed, accepts⟩ := lowers.fits old link linked
    exact ⟨expected, pinType?_add typed _ _ _, accepts⟩
  · obtain rfl := List.mem_singleton.mp added
    exact absurd (unlinked.symm.trans linked) (by simp)

/-- Without a slot and the links into it, the others are fed as before. -/
theorem Removed.fedSlots_eq (effect : node.Removed after id slot) {before rest : List Slot}
    (entries : node.slots.entries = before ++ slot :: rest)
    (early : ∀ other ∈ before, other.id ≠ id) (late : ∀ other ∈ rest, other.id ≠ id) :
    after.fedSlots = (before ++ rest).map node.fed := by
  have own := (Slots.get?_eq_some effect.found).2
  have kept : ∀ slots : List Slot, (∀ other ∈ slots, other.id ≠ id) →
      slots.filter (fun other => other.id ≠ id) = slots := fun slots others =>
    List.filter_eq_self.mpr (by simpa using others)
  have left : after.slots.entries = before ++ rest := by
    rw [effect.whole, entries, List.filter_append, List.filter_cons, kept _ early, kept _ late]
    simp [own]
  rw [fedSlots, left]
  refine List.map_congr_left fun other member => ?_
  have apart : other.id ≠ id := (List.mem_append.mp member).elim (early other) (late other)
  rw [fed, fed, feedOf, feedOf, effect.wiring, Function.update_of_ne (by simpa using apart)]

/-- A slot that is removed takes its step and its redirects along, and the later steps move up. -/
theorem Lowers.lower_removed (lowers : node.Lowers feeds plan) (consistent : node.Consistent)
    (small : node.slots.entries.length ≤ 4294967294)
    (done : node.remove id = .ok (after, slot)) :
    ∃ gone, plan.madeFor id = [gone] ∧ after.lower = .ok (plan.without gone.id) := by
  have effect := removed consistent.ids done
  obtain ⟨before, rest, entries, early, late, split, made⟩ :=
    lowers.steps_split consistent.ids effect.found
  have numbered := (lowers.isChain small).numbered
  have count : node.slots.entries.length = before.length + (rest.length + 1) := by simp [entries]
  have later : Plan.createId.raw < (Plan.propertyId before.length).raw :=
    Plan.createId_lt_propertyId (by omega)
  refine ⟨_, made, ?_⟩
  have regular := (lowers.regular.drop numbered split (Plan.propertyId_ne_createId (by omega))
    (Plan.target_iff_of_madeFor numbered made)).renumber
      (Plan.propertyId before.length).without fun _ _ => StepId.without_eq_createId_iff later
  have steps : (plan.without (Plan.propertyId before.length)).steps =
      Plan.headSteps feeds ++ Plan.propertySteps 0 after.fedSlots := by
    have left := Plan.steps_without numbered split
    have moved := Plan.renumber_propertySteps before.length (rest.map node.fed)
      (Nat.le_refl before.length) (by rw [List.length_map]; omega)
    -- The steps before the slot's own keep their numbers, and those after it move up.
    rw [Plan.propertyStep_id, moved] at left
    rw [left, effect.fedSlots_eq entries early late, List.map_append, Plan.propertySteps_append,
      List.length_map, Nat.zero_add, List.append_assoc]
  refine lowers.lower_eq_of_regular ?_ rfl steps regular ?_ ?_ ?_ ?_
    (Plan.length_onPin_without_le plan _)
  · rw [effect.whole]
    exact lowers.nodeId
  · rw [effect.whole]
  · intro fixed
    rw [effect.wiring, Function.update_of_ne (by simp)]
  · -- The slots that are left have the types and links that they had.
    intro other member link linked
    obtain ⟨_, whole⟩ := remove_eq_ok done
    have left : other ∈ node.slots.entries ∧ other.id ≠ id := by
      rw [effect.whole] at member
      simpa using List.mem_filter.mp member
    have apart : Pin.slot other.id ≠ .slot id := by simpa using left.2
    rw [effect.wiring, Function.update_of_ne apart] at linked
    obtain ⟨expected, typed, accepts⟩ := lowers.fits left.1 link linked
    rw [whole, pinType?_eraseP apart]
    exact ⟨expected, typed, accepts⟩
  · intro pin link linked
    rw [effect.wiring] at linked
    by_cases into : pin = .slot id
    · simp [into] at linked
    · rwa [Function.update_of_ne into] at linked

/-- Edits of a node change its plan only where they change the node. -/
structure EditedLocally (node : Node) (plan : Plan) : Prop where
  /-- After a slot was renamed, its step sets the property with the new name. -/
  renamed : ∀ id newName after, node.rename id newName = .ok after →
    (∃ step, plan.madeFor id = [step]) ∧
      after.lower = .ok (plan.revise id (Step.withProperty (Text.trim newName)))
  /-- After a slot was added, the chain goes on to one more step, which sets a property to zero. -/
  added : ∀ proposed type, (node.add proposed type none).1.lower = .ok (plan.extend
    (plan.newStep (node.add proposed type none).2 (node.freeName proposed none) type))
  /-- After a slot was removed, its step and its redirects are gone, and later steps move up. -/
  removed : ∀ id after slot, node.remove id = .ok (after, slot) →
    ∃ gone, plan.madeFor id = [gone] ∧ after.lower = .ok (plan.without gone.id)
  /-- The literal of a slot matters only to its step, and only if the slot is not linked. -/
  literal : ∀ id default after, node.setDefault id default = .ok after →
    (∃ step, plan.madeFor id = [step]) ∧
      ((node.link? (.slot id)).isSome = true → after.lower = .ok plan) ∧
      (node.link? (.slot id) = none → ∃ slot, node.slots.get? id = some slot ∧
        after.lower = .ok
          (plan.revise id (Step.withValue (.literal (default.getD (.zero slot.type))))))

/-- Each edit of a node that passes its check changes the plan of the node only locally. -/
theorem editedLocally_of_lower (few : node.slots.entries.length < 2147483647)
    (valid : node.validate = .ok ()) (lowered : node.lower = .ok plan) :
    node.EditedLocally plan := by
  obtain ⟨feeds, lowers⟩ := lower_eq_ok lowered
  have consistent := (validate_eq_ok_iff.mp valid).2
  have single : ∀ id slot, node.slots.get? id = some slot → ∃ step, plan.madeFor id = [step] := by
    intro id slot found
    obtain ⟨before, _, _, _, _, _, made⟩ := lowers.steps_split consistent.ids found
    exact ⟨_, made⟩
  refine ⟨?_, fun proposed type => ?_, fun id after slot done => ?_, ?_⟩
  · intro id newName after done
    obtain ⟨_, held, _, rfl⟩ := rename_eq_ok done
    obtain ⟨slot, found⟩ := Option.isSome_iff_exists.mp held
    refine ⟨single id slot found, ?_⟩
    have effect := changed consistent.ids found fun slot => { slot with name := Text.trim newName }
    exact lowers.lower_changed effect (fun _ => ⟨rfl, rfl⟩) fun _ _ _ _ => rfl
  · exact lowers.lower_added consistent (by omega) proposed type
  · exact lowers.lower_removed consistent (by omega) done
  · intro id default after done
    obtain ⟨slot, found, _, rfl⟩ := setDefault_eq_ok done
    have effect := changed consistent.ids found fun slot => { slot with default }
    refine ⟨single id slot found, fun linked => ?_, fun unlinked => ⟨slot, found, ?_⟩⟩
    · -- A linked slot is fed over its link, whatever its literal.
      obtain ⟨link, into⟩ := Option.isSome_iff_exists.mp linked
      have same : plan.revise id (fun step => step) = plan := by simp [Plan.revise]
      rw [← same]
      refine lowers.lower_changed effect (fun _ => ⟨rfl, rfl⟩) fun position other _ own => ?_
      subst own
      rw [feedOf_linked other into, feedOf_linked { other with default } into]
      rfl
    · refine lowers.lower_changed effect (fun _ => ⟨rfl, rfl⟩) fun position other member own => ?_
      -- There is just one slot with the id, so its type is that of the slot that was found.
      obtain ⟨placed, same⟩ := Slots.get?_eq_some found
      obtain rfl := consistent.slot_eq_of_id member placed (own.trans same.symm)
      subst own
      rw [feedOf_unlinked other unlinked, feedOf_unlinked { other with default } unlinked]
      rfl

/-- A node with two linked slots around one that is not linked, and with a linked context. -/
def form : Node where
  id := "form"
  fixed := ⟨some "UI", some "Form", some 1⟩
  slots := ⟨[⟨⟨0⟩, "Name", .string, none⟩, ⟨⟨1⟩, "Age", .integer, some (.integer 30)⟩,
    ⟨⟨4⟩, "Note", .text, none⟩], 5⟩
  links := [⟨.slot ⟨4⟩, ⟨"user", "note"⟩, .text, .shared⟩,
    ⟨.fixed .context, ⟨"world", "self"⟩, .object, .shared⟩,
    ⟨.slot ⟨0⟩, ⟨"user", "name"⟩, .string, .exclusive⟩]

/-- Renaming the second slot changes its step, which is the fourth. Without the first slot, the
steps of the other two are numbered one lower, and so is the target of the redirect of the last. -/
theorem editedLocally_of_lower_form :
    form.slots.entries.length < 2147483647 ∧ form.validate = .ok () ∧
      ∃ plan, form.lower = .ok plan ∧ form.EditedLocally plan ∧
        (∃ after, form.rename ⟨1⟩ " Years " = .ok after ∧
          after.lower = .ok (plan.revise ⟨1⟩ (Step.withProperty "Years"))) ∧
        (plan.revise ⟨1⟩ (Step.withProperty "Years")).properties = ["Name", "Years", "Note"] ∧
        (plan.without ⟨2⟩).properties = ["Age", "Note"] ∧
        (plan.without ⟨2⟩).steps.map Step.id = [⟨0⟩, ⟨1⟩, ⟨2⟩, ⟨3⟩] ∧
        (plan.without ⟨2⟩).redirects.map Redirect.target = [⟨0⟩, ⟨1⟩, ⟨3⟩] := by
  have few : form.slots.entries.length < 2147483647 := by decide
  have valid : form.validate = .ok () := by decide +kernel
  have edited := editedLocally_of_lower few valid rfl
  have trimmed : Text.trim " Years " = "Years" := by decide +kernel
  obtain ⟨after, renamed⟩ : ∃ after, form.rename ⟨1⟩ " Years " = .ok after :=
    rename_succeeds_iff.mpr ⟨by decide +kernel, ⟨_, rfl⟩, by decide +kernel⟩
  refine ⟨few, valid, _, rfl, edited, ⟨after, renamed, ?_⟩, by decide, by decide, by decide,
    by decide⟩
  rw [← trimmed]
  exact (edited.renamed ⟨1⟩ " Years " after renamed).2

end Node

end CallChain

import CallChain.Proofs.Lowering.FirstFault
import CallChain.Proofs.Lowering.Inputs
import CallChain.Proofs.Plan.Intakes

/-! How the links of a node are handed over to its plan: every input that is fed over a link has a
redirect of its own, and every link that is read is moved exactly once. -/

namespace CallChain

namespace Node

variable {node : Node} {feeds : Feeds} {plan : Plan} {pin : Pin}

/-- The intake that a reading of a pin comes to, if the pin is linked. -/
def intake? (node : Node) (use : PinUse) : Option Intake :=
  (node.link? use.pin).map fun link => ⟨use.pin, link.source, use.step, use.input⟩

/-- The intakes of the pins that are linked, in the order the plan is made. -/
def intakes (node : Node) : List Intake :=
  node.pinUses.filterMap node.intake?

/-- No exclusive link would have to be spread. -/
def KeepsExclusive (node : Node) : Prop :=
  ∀ pin link, node.link? pin = some link → link.mode = .exclusive →
    (Intake.onPin pin node.intakes).length ≤ 1

/-- An intake reads the pin it was made for, from the source of the link into the pin. -/
theorem intake?_eq_some_iff {use : PinUse} {intake : Intake} : node.intake? use = some intake ↔
    ∃ link, node.link? use.pin = some link ∧
      intake = ⟨use.pin, link.source, use.step, use.input⟩ := by
  rw [intake?, Option.map_eq_some_iff]
  exact exists_congr fun link => and_congr_right fun _ => eq_comm

/-- A linked pin has an intake for each of its readings. -/
theorem onPin_of_linked {link : Link} (linked : node.link? pin = some link)
    (uses : List PinUse) : Intake.onPin pin (uses.filterMap node.intake?) =
      (uses.filter fun use => use.pin == pin).map fun use =>
        ⟨pin, link.source, use.step, use.input⟩ := by
  induction uses with
  | nil => rfl
  | cons use rest ih =>
    rw [Intake.onPin] at ih ⊢
    by_cases own : use.pin = pin
    · simp [intake?, own, linked, ih]
    · -- A reading of another pin has no intake on this one.
      cases elsewhere : node.link? use.pin with
      | none => simp [intake?, elsewhere, own, ih]
      | some other => simp [intake?, elsewhere, own, ih]

/-- A pin without a link has no intakes. -/
theorem onPin_of_unlinked (unlinked : node.link? pin = none) (uses : List PinUse) :
    Intake.onPin pin (uses.filterMap node.intake?) = [] := by
  rw [Intake.onPin, List.filter_eq_nil_iff]
  intro intake member
  obtain ⟨use, _, made⟩ := List.mem_filterMap.mp member
  obtain ⟨link, linked, rfl⟩ := intake?_eq_some_iff.mp made
  have apart : use.pin ≠ pin := by
    rintro rfl
    rw [unlinked] at linked
    cases linked
  simpa using apart

/-- The redirects of a pin exist just if its link is not exclusive or not spread, and then they are
those of its intakes. -/
theorem redirectsOf_eq_ok_iff {group : List Redirect} : node.redirectsOf pin = .ok group ↔
    (∀ link, node.link? pin = some link → link.mode = .exclusive →
      (Intake.onPin pin node.intakes).length ≤ 1) ∧
    group = Intake.spread (Intake.onPin pin node.intakes) := by
  unfold redirectsOf
  cases linked : node.link? pin with
  | none =>
    rw [intakes, onPin_of_unlinked linked]
    simp [Intake.spread, eq_comm]
  | some link =>
    rw [intakes, onPin_of_linked linked]
    have made : Intake.spread ((node.pinUses.filter fun use => use.pin == pin).map fun use =>
        ⟨pin, link.source, use.step, use.input⟩) =
          handovers pin link (node.pinUses.filter fun use => use.pin == pin) := by
      refine List.ext_getElem? fun index => ?_
      simp only [Intake.spread, handovers, List.getElem?_mapIdx, List.getElem?_map, Option.map_map,
        List.length_map]
      rfl
    rw [made]
    simp only [List.length_map, Option.some.injEq, forall_eq']
    -- An exclusive link that would have to be spread is a fault.
    by_cases spread : link.mode = .exclusive ∧
        1 < (node.pinUses.filter fun use => use.pin == pin).length
    · rw [if_pos spread]
      refine iff_of_false (by simp) fun few => ?_
      exact absurd (few.1 spread.1) (Nat.not_le.mpr spread.2)
    · have few : link.mode = .exclusive →
          (node.pinUses.filter fun use => use.pin == pin).length ≤ 1 := fun exclusive =>
        Nat.not_lt.mp fun more => spread ⟨exclusive, more⟩
      rw [if_neg spread, Except.ok.injEq, and_iff_right few]
      exact eq_comm

/-- The pins that are read and linked are those of the intakes. -/
theorem pins_intakes : Intake.pins node.intakes =
    (node.pinUses.map PinUse.pin).eraseDups.filter fun pin => (node.link? pin).isSome := by
  rw [Intake.pins, ← eraseDups_filter, intakes]
  congr 1
  induction node.pinUses with
  | nil => rfl
  | cons use rest ih =>
    cases linked : node.link? use.pin <;> simp [intake?, linked, ih]

/-- The redirects of a node exist just if no exclusive link is spread, and then they hand its links
over to its intakes. -/
theorem redirects_eq_ok_iff {redirects : List Redirect} : node.redirects = .ok redirects ↔
    node.KeepsExclusive ∧ redirects = Intake.handOver node.intakes := by
  have joined : ((node.pinUses.map PinUse.pin).eraseDups.map fun pin =>
      Intake.spread (Intake.onPin pin node.intakes)).flatten = Intake.handOver node.intakes := by
    rw [← List.flatMap_def, Intake.handOver, pins_intakes]
    refine (flatMap_filter _ _ fun pin _ unlinked => ?_).symm
    rw [intakes, onPin_of_unlinked (by simpa using unlinked)]
    rfl
  constructor
  · intro redirected
    obtain ⟨groups, mapped, rfl⟩ := redirects_eq_ok redirected
    have each : ∀ pin ∈ (node.pinUses.map PinUse.pin).eraseDups, ∃ group,
        node.redirectsOf pin = .ok group := fun pin member =>
      (exists_result_of_mem mapped member).imp fun _ found => found.2
    refine ⟨fun pin link linked exclusive => ?_, ?_⟩
    · by_cases read : pin ∈ (node.pinUses.map PinUse.pin).eraseDups
      · obtain ⟨group, made⟩ := each pin read
        exact (redirectsOf_eq_ok_iff.mp made).1 link linked exclusive
      · -- A pin that is not read has no intakes at all.
        have unread : pin ∉ Intake.pins node.intakes := by
          rw [pins_intakes]
          exact fun member => read (List.mem_filter.mp member).1
        rw [Intake.mem_pins_iff, ne_eq, not_not] at unread
        simp [unread]
    · have succeeds : ∀ pin ∈ (node.pinUses.map PinUse.pin).eraseDups, node.redirectsOf pin =
          .ok (Intake.spread (Intake.onPin pin node.intakes)) := by
        intro pin member
        obtain ⟨group, made⟩ := each pin member
        rw [made, (redirectsOf_eq_ok_iff.mp made).2]
      rw [mapM_eq_map succeeds, Except.ok.injEq] at mapped
      rw [← mapped, joined]
  · rintro ⟨exclusive, rfl⟩
    refine bind_eq_ok_iff.mpr ⟨_, mapM_eq_map fun pin _ => ?_, pure_eq_ok_iff.mpr joined⟩
    exact redirectsOf_eq_ok_iff.mpr ⟨exclusive pin, rfl⟩

/-- What a pin takes is fed over a link just if the pin is linked. -/
theorem Takes.intake?_eq (use : PinUse) {feed : Feed} (takes : node.Takes use.pin feed) :
    node.intake? use =
      feed.source?.map fun source => ⟨use.pin, source, use.step, use.input⟩ := by
  unfold Takes at takes
  cases linked : node.link? use.pin with
  | some link =>
    simp only [linked] at takes
    simp [intake?, linked, takes, Feed.source?]
  | none =>
    simp only [linked] at takes
    -- A constant is not linked to anything.
    cases feed <;> simp [Feed.IsConstant] at takes <;> simp [intake?, linked, Feed.source?]

/-- The intakes of property steps are those of the pins of their slots. -/
theorem intakes_propertySteps {slots : List Slot} {values : List Feed}
    (serves : List.Forall₂ node.ServesSlot slots values) (position : Nat) :
    (Plan.propertySteps position (slots.zip values)).flatMap Step.intakes =
      (slots.mapIdx fun offset slot =>
        (⟨.slot slot.id, Plan.propertyId (position + offset), .value⟩ : PinUse)).filterMap
          node.intake? := by
  induction serves generalizing position with
  | nil => rfl
  | @cons slot value slots values served _ ih =>
    have own := Takes.intake?_eq
      ⟨.slot slot.id, Plan.propertyId position, .value⟩ (takes_slot served)
    have rest := ih (position + 1)
    simp only [Nat.add_assoc, Nat.add_comm 1] at rest
    simp only [List.zip_cons_cons, Plan.propertySteps, List.flatMap_cons, rest, List.mapIdx_cons,
      Nat.add_zero, List.filterMap_cons, own]
    -- The target of the step is the output of an earlier step, and its value may be linked.
    cases value <;> rfl

/-- The inputs of the steps of a node that are fed over links are the intakes of the node. -/
theorem intakes_stepsOf (context : node.Takes (.fixed .context) feeds.context)
    (path : node.Takes (.fixed .path) feeds.path)
    (itemId : node.Takes (.fixed .itemId) feeds.itemId)
    (priority : node.Takes (.fixed .priority) feeds.priority)
    (values : List.Forall₂ node.ServesSlot node.slots.entries feeds.values) :
    (Plan.stepsOf node.slots.entries feeds).flatMap Step.intakes = node.intakes := by
  have slots := intakes_propertySteps values 0
  simp only [Nat.zero_add] at slots
  rw [Plan.stepsOf, List.flatMap_cons, List.flatMap_cons, slots, intakes, pinUses,
    List.filterMap_append, ← List.append_assoc]
  congr 1
  -- What is left are the five readings of fixed pins.
  have first := Takes.intake?_eq ⟨.fixed .context, Plan.locateId, .context⟩ context
  have second := Takes.intake?_eq ⟨.fixed .path, Plan.createId, .path⟩ path
  have third := Takes.intake?_eq ⟨.fixed .itemId, Plan.createId, .itemId⟩ itemId
  have fourth := Takes.intake?_eq ⟨.fixed .priority, Plan.createId, .priority⟩ priority
  have fifth := Takes.intake?_eq ⟨.fixed .context, Plan.createId, .context⟩ context
  simp [Step.intakes, List.filterMap_eq_flatMap_toList, Plan.locateStep, Plan.createStep,
    Step.intake?, Step.pin?, first, second, third, fourth, fifth]

/-- The inputs of the plan of a node that are fed over links are the intakes of the node. -/
theorem Lowers.intakes_eq (lowers : node.Lowers feeds plan) : plan.intakes = node.intakes := by
  rw [Plan.intakes, lowers.steps]
  exact intakes_stepsOf (takes_context lowers.context) (takes_required lowers.path)
    (takes_required lowers.itemId) (takes_required lowers.priority) lowers.values

/-- Every input that is fed over a link stands for a pin of the node. -/
theorem Lowers.map_wire_intakes (lowers : node.Lowers feeds plan) :
    plan.intakes.map Intake.wire = plan.linkedWires := by
  rw [Plan.intakes, Plan.linkedWires, Plan.wires, List.map_flatMap, List.filter_flatMap]
  refine List.flatMap_congr fun step member => Step.map_wire_intakes fun entry read fed => ?_
  rcases lowers.mem_steps_iff.mp member with rfl | rfl | ⟨position, slot, value, _, _, rfl⟩
  · obtain rfl := List.mem_singleton.mp read
    rfl
  · simp only [Plan.createStep, List.mem_cons, List.not_mem_nil, or_false] at read
    rcases read with rfl | rfl | rfl | rfl | rfl
    · -- The manager is the output of an earlier step.
      cases fed
    · rfl
    · rfl
    · rfl
    · rfl
  · simp only [Plan.propertyStep, List.mem_cons, List.not_mem_nil, or_false] at read
    rcases read with rfl | rfl
    · cases fed
    · rfl

/-- A pin has intakes just if the node has it and it is linked. -/
theorem onPin_intakes_ne_nil_iff : Intake.onPin pin node.intakes ≠ [] ↔
    (∃ link, node.link? pin = some link) ∧ node.HasPin pin := by
  rw [← Intake.mem_pins_iff, pins_intakes, List.mem_filter, List.mem_eraseDups,
    mem_map_pin_pinUses_iff, and_comm, Option.isSome_iff_exists]

/-- As long as ids do not run out, no input of a step is read twice. -/
theorem nodup_read_inputs (small : node.slots.entries.length ≤ 4294967294) :
    (node.pinUses.map fun use => (use.step, use.input)).Nodup := by
  rw [pinUses, List.map_append, List.nodup_append]
  refine ⟨by decide, ?_, ?_⟩
  · rw [List.Nodup, List.pairwise_iff_getElem]
    intro first second bound inside before same
    simp only [List.length_map, List.length_mapIdx, List.getElem_map, List.getElem_mapIdx,
      Prod.mk.injEq, and_true] at bound inside same
    -- The ids of property steps tell the positions of their slots.
    have early := Plan.propertyId_toNat (show first < 4294967294 by omega)
    have late := Plan.propertyId_toNat (show second < 4294967294 by omega)
    rw [same] at early
    omega
  · -- Only property steps have an input for the value of a slot.
    rintro _ fixed _ slotted rfl
    obtain ⟨use, member, same⟩ := List.mem_map.mp slotted
    obtain ⟨position, _, rfl⟩ := List.mem_mapIdx.mp member
    rw [← same] at fixed
    simp at fixed

/-- As long as ids do not run out, no two intakes are the same input of the same step. -/
theorem nodup_intake_inputs (small : node.slots.entries.length ≤ 4294967294) :
    (node.intakes.map fun intake => (intake.target, intake.input)).Nodup := by
  refine (nodup_read_inputs small).sublist ?_
  rw [intakes]
  induction node.pinUses with
  | nil => simp
  | cons use rest ih =>
    cases found : node.intake? use with
    | none =>
      rw [List.filterMap_cons_none found]
      exact ih.cons _
    | some intake =>
      obtain ⟨link, _, rfl⟩ := intake?_eq_some_iff.mp found
      rw [List.filterMap_cons_some found]
      exact ih.cons_cons _

/-- The redirects of a plan rewire the links of its node. -/
structure Rewires (node : Node) (plan : Plan) : Prop where
  /-- Redirects and inputs that are fed over links come in pairs, with the same source in both. -/
  matched : (plan.redirects.map Redirect.wire).Perm plan.linkedWires
  /-- No two redirects lead to the same input of the same step. -/
  distinct : (plan.redirects.map fun redirect => (redirect.target, redirect.input)).Nodup
  /-- Every input that is fed over a link stands for a pin of the node. -/
  read : plan.intakes.map Intake.wire = plan.linkedWires
  /-- Every redirect has the source of the link into its pin. -/
  source : ∀ redirect ∈ plan.redirects, ∃ link, node.link? redirect.pin = some link ∧
    redirect.source = link.source
  /-- The redirects of a pin lead to the inputs that stand for it, in the order of these. -/
  ordered : ∀ pin, (plan.redirectsOf pin).map Redirect.intake = Intake.onPin pin plan.intakes
  /-- All redirects of a pin are copies but the last one, which moves the link. -/
  handed : ∀ pin, plan.redirectsOf pin ≠ [] → ∃ copies,
    (plan.redirectsOf pin).map Redirect.action = List.replicate copies .copied ++ [.moved]
  /-- A pin with redirects has just one that moves its link. -/
  once : ∀ pin, plan.redirectsOf pin ≠ [] →
    ((plan.redirectsOf pin).filter fun redirect => redirect.action = .moved).length = 1
  /-- An exclusive link into a pin of the node has a single redirect, which moves it. -/
  exclusive : ∀ pin link, node.HasPin pin → node.link? pin = some link →
    link.mode = .exclusive → ∃ target input,
      plan.redirectsOf pin = [⟨pin, link.source, .moved, target, input⟩]
  /-- Redirects stand pin by pin, in the order in which the pins are first read. -/
  grouped : plan.redirects = (plan.intakes.map Intake.pin).eraseDups.flatMap plan.redirectsOf
  /-- A pin has redirects just if the node has it and it is linked. -/
  occurs : ∀ pin, plan.redirectsOf pin ≠ [] ↔
    (∃ link, node.link? pin = some link) ∧ node.HasPin pin

/-- The redirects of a pin in the plan of a node hand its link over to its intakes. -/
theorem Lowers.redirectsOf_eq (lowers : node.Lowers feeds plan) (pin : Pin) :
    plan.redirectsOf pin = Intake.spread (Intake.onPin pin node.intakes) := by
  obtain ⟨_, handed⟩ := redirects_eq_ok_iff.mp lowers.redirects
  rw [Plan.redirectsOf, handed, Intake.filter_pin_handOver]

/-- The redirects of the plan of a node and the inputs of its steps that are fed over links
correspond to each other: they come in pairs, each link is copied to all inputs that stand for its
pin but the last and moved to that, and the redirects stand pin by pin. -/
theorem rewires_of_lower (small : node.slots.entries.length ≤ 4294967294)
    (lowered : node.lower = .ok plan) : node.Rewires plan := by
  obtain ⟨feeds, lowers⟩ := lower_eq_ok lowered
  obtain ⟨exclusive, handed⟩ := redirects_eq_ok_iff.mp lowers.redirects
  have served : (plan.redirects.map Redirect.intake).Perm node.intakes :=
    handed ▸ Intake.map_intake_handOver_perm node.intakes
  have read := lowers.map_wire_intakes
  have groups := lowers.redirectsOf_eq
  have filled : ∀ pin, plan.redirectsOf pin ≠ [] ↔ Intake.onPin pin node.intakes ≠ [] := by
    intro pin
    rw [groups, Intake.spread_ne_nil_iff]
  exact {
    matched := by
      have wires := served.map Intake.wire
      rwa [List.map_map, ← lowers.intakes_eq, read] at wires
    distinct := by
      have inputs := (served.map fun intake => (intake.target, intake.input)).nodup_iff.mpr
        (nodup_intake_inputs small)
      rwa [List.map_map] at inputs
    read
    source := by
      intro redirect member
      obtain ⟨use, _, made⟩ := List.mem_filterMap.mp (served.subset (List.mem_map_of_mem member))
      obtain ⟨link, linked, same⟩ := intake?_eq_some_iff.mp made
      -- The redirect has the pin and the source of the intake it serves.
      obtain ⟨pinned, sourced, _⟩ := Intake.mk.inj same
      exact ⟨link, pinned ▸ linked, sourced⟩
    ordered := by
      intro pin
      rw [groups, Intake.map_intake_spread, lowers.intakes_eq]
    handed := by
      intro pin some
      rw [groups]
      exact ⟨_, Intake.map_action_spread ((filled pin).mp some)⟩
    once := by
      intro pin some
      rw [groups]
      exact Intake.length_moved_spread ((filled pin).mp some)
    exclusive := by
      intro pin link owned linked alone
      have some := onPin_intakes_ne_nil_iff.mpr ⟨⟨link, linked⟩, owned⟩
      have few := exclusive pin link linked alone
      obtain ⟨intake, single⟩ := List.length_eq_one_iff.mp
        (Nat.le_antisymm few (List.length_pos_iff.mpr some))
      -- The only intake of the pin was made for its link.
      have member : intake ∈ Intake.onPin pin node.intakes := by simp [single]
      obtain ⟨use, _, made⟩ := List.mem_filterMap.mp (List.mem_filter.mp member).1
      obtain ⟨other, found, rfl⟩ := intake?_eq_some_iff.mp made
      have own : use.pin = pin := Intake.pin_of_mem_onPin member
      rw [own, linked, Option.some.injEq] at found
      refine ⟨use.step, use.input, ?_⟩
      rw [groups, single, ← found, ← own]
      rfl
    grouped := by
      have order := Intake.handOver_eq_flatMap node.intakes
      rw [← handed, ← lowers.intakes_eq] at order
      exact order
    occurs := by
      intro pin
      rw [filled, onPin_intakes_ne_nil_iff] }

/-- A node whose context is shared, whose path may be read once only, and which has two slots of one
id that share a link, a slot without a link, and a link to a slot that is gone. -/
def crowded : Node where
  id := "crowded"
  fixed := ⟨none, some "Box", some 3⟩
  slots := ⟨[⟨⟨1⟩, "Title", .string, none⟩, ⟨⟨0⟩, "Width", .float, none⟩,
    ⟨⟨1⟩, "Hint", .string, none⟩], 2⟩
  links := [⟨.slot ⟨1⟩, ⟨"menu", "title"⟩, .string, .shared⟩,
    ⟨.slot ⟨9⟩, ⟨"menu", "icon"⟩, .object, .shared⟩,
    ⟨.fixed .path, ⟨"menu", "place"⟩, .string, .exclusive⟩,
    ⟨.fixed .context, ⟨"world", "self"⟩, .object, .shared⟩]

/-- The links of the node are handed over in the order context, path, slot: the two that are read
twice are copied first, and each of the three is moved in the end. -/
theorem rewires_of_lower_crowded :
    crowded.slots.entries.length ≤ 4294967294 ∧ ∃ plan, crowded.lower = .ok plan ∧
      crowded.Rewires plan ∧
      plan.redirects.map (fun redirect => (redirect.pin, redirect.action, redirect.target)) =
        [(.fixed .context, .copied, ⟨0⟩), (.fixed .context, .moved, ⟨1⟩),
          (.fixed .path, .moved, ⟨1⟩), (.slot ⟨1⟩, .copied, ⟨2⟩), (.slot ⟨1⟩, .moved, ⟨4⟩)] := by
  have small : crowded.slots.entries.length ≤ 4294967294 := by decide
  exact ⟨small, _, rfl, rewires_of_lower small rfl, by decide⟩

end Node

end CallChain

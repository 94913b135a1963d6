import CallChain.Proofs.Lowering.Redirects

/-! Intakes: the inputs of a plan that are fed over links, and how those links are handed over. -/

namespace CallChain

/-- Repeats are erased alike before and after a selection of elements. -/
theorem eraseDups_filter {α : Type} [BEq α] [LawfulBEq α] (wanted : α → Bool)
    (elements : List α) :
    (elements.filter wanted).eraseDups = elements.eraseDups.filter wanted := by
  match elements with
  | [] => rfl
  | first :: rest =>
    -- The rest without the first element is shorter than the list as a whole.
    have ih := eraseDups_filter wanted (rest.filter fun other => !other == first)
    rw [List.eraseDups_cons, List.filter_cons, List.filter_cons, ← ih, List.filter_filter]
    by_cases kept : wanted first = true
    · simp only [kept, if_true, List.eraseDups_cons, List.filter_filter, Bool.and_comm]
    · -- The first element is not wanted, so leaving it out of the rest makes no difference.
      have same : rest.filter (fun other => wanted other && !other == first) =
          rest.filter wanted := by
        refine List.filter_congr fun other _ => ?_
        by_cases equal : other = first <;> simp [equal, kept]
      simp only [kept, Bool.false_eq_true, if_false, same]
termination_by elements.length
decreasing_by exact Nat.lt_succ_of_le (List.length_filter_le _ _)

/-- Of different keys, only the one that is looked for contributes. -/
theorem flatMap_single {α κ : Type} [DecidableEq κ] {keys : List κ} (distinct : keys.Nodup)
    (key : κ) (group : κ → List α) :
    keys.flatMap (fun other => if other = key then group other else []) =
      if key ∈ keys then group key else [] := by
  induction keys with
  | nil => rfl
  | cons first rest ih =>
    obtain ⟨fresh, distinct⟩ := List.nodup_cons.mp distinct
    rw [List.flatMap_cons, ih distinct]
    by_cases here : first = key
    · subst here
      simp [fresh]
    · simp [here, Ne.symm here]

/-- Keys that contribute nothing can be left out. -/
theorem flatMap_filter {α κ : Type} (wanted : κ → Bool) {group : κ → List α} (keys : List κ)
    (idle : ∀ key ∈ keys, wanted key = false → group key = []) :
    (keys.filter wanted).flatMap group = keys.flatMap group := by
  induction keys with
  | nil => rfl
  | cons first rest ih =>
    have tail := ih fun key member => idle key (List.mem_cons_of_mem first member)
    cases kept : wanted first with
    | true => simp [kept, tail]
    | false => simp [kept, tail, idle first (by simp) kept]

/-- Grouping elements by different keys, all of theirs among them, only reorders the elements. -/
theorem flatMap_groups_perm {α κ : Type} [DecidableEq κ] (keyOf : α → κ) {keys : List κ}
    {elements : List α} (distinct : keys.Nodup)
    (covered : ∀ element ∈ elements, keyOf element ∈ keys) :
    (keys.flatMap fun key => elements.filter fun element => keyOf element = key).Perm
      elements := by
  induction keys generalizing elements with
  | nil => simp [List.eq_nil_iff_forall_not_mem.mpr fun element member => by
      simpa using covered element member]
  | cons first rest ih =>
    obtain ⟨fresh, distinct⟩ := List.nodup_cons.mp distinct
    -- The other groups are those of the elements that do not have the first key.
    have others : (rest.flatMap fun key => elements.filter fun element => keyOf element = key) =
        rest.flatMap fun key =>
          (elements.filter fun element => !decide (keyOf element = first)).filter
            fun element => keyOf element = key := by
      refine List.flatMap_congr fun key member => ?_
      have apart : key ≠ first := fun same => fresh (same ▸ member)
      rw [List.filter_filter]
      refine List.filter_congr fun element _ => ?_
      by_cases own : keyOf element = key <;> simp [own, apart]
    rw [List.flatMap_cons, others]
    refine ((ih distinct fun element member => ?_).append_left _).trans
      (List.filter_append_perm (fun element => decide (keyOf element = first)) elements)
    obtain ⟨inside, apart⟩ := List.mem_filter.mp member
    exact (List.mem_cons.mp (covered element inside)).resolve_left (by simpa using apart)

/-- The output of another node that a feed is linked to, if it is linked. -/
def Feed.source? : Feed → Option Source
  | linked source => some source
  | _ => none

/-- An input of a step that is fed over a link, with the pin of the node that the link ended in. -/
structure Intake where
  pin : Pin
  source : Source
  target : StepId
  input : Input
deriving DecidableEq, Repr

/-- The intake that a redirect serves. -/
def Redirect.intake (redirect : Redirect) : Intake :=
  ⟨redirect.pin, redirect.source, redirect.target, redirect.input⟩

namespace Step

/-- The pin of its node that an input of a step stands for, if it stands for one. -/
def pin? (step : Step) (input : Input) : Option Pin :=
  match step.origin, input with
  | none, .context => some (.fixed .context)
  | none, .path => some (.fixed .path)
  | none, .itemId => some (.fixed .itemId)
  | none, .priority => some (.fixed .priority)
  | some id, .value => some (.slot id)
  | _, _ => none

/-- The intake of an input, if it stands for a pin and is fed over a link. -/
def intake? (step : Step) (entry : FedInput) : Option Intake :=
  (step.pin? entry.input).bind fun pin =>
    entry.feed.source?.map fun source => ⟨pin, source, step.id, entry.input⟩

/-- The inputs of a step that are fed over links. -/
def intakes (step : Step) : List Intake :=
  step.inputs.filterMap step.intake?

end Step

namespace Plan

/-- The inputs of a plan that are fed over links, in the order in which they are read. -/
def intakes (plan : Plan) : List Intake :=
  plan.steps.flatMap Step.intakes

/-- The wires of a plan that are fed over links. -/
def linkedWires (plan : Plan) : List Wire :=
  plan.wires.filter fun wire => wire.feed.source?.isSome

/-- The redirects of a pin, in order. -/
def redirectsOf (plan : Plan) (pin : Pin) : List Redirect :=
  plan.redirects.filter fun redirect => redirect.pin = pin

end Plan

/-- The wire that a redirect makes. -/
def Redirect.wire (redirect : Redirect) : Plan.Wire :=
  ⟨.linked redirect.source, redirect.target, redirect.input⟩

/-- The wire that feeds an intake. -/
def Intake.wire (intake : Intake) : Plan.Wire :=
  ⟨.linked intake.source, intake.target, intake.input⟩

/-- Where every input that is fed over a link stands for a pin, the intakes of a step are its wires
that are fed over links. -/
theorem Step.map_wire_intakes {step : Step} (known : ∀ entry ∈ step.inputs,
      entry.feed.source?.isSome = true → (step.pin? entry.input).isSome = true) :
    step.intakes.map Intake.wire =
      ((step.inputs.filter fun entry => !entry.feed.isLiteral).map fun entry =>
        (⟨entry.feed, step.id, entry.input⟩ : Plan.Wire)).filter fun wire =>
          wire.feed.source?.isSome := by
  -- The step is kept as it is while the induction takes its inputs one by one.
  suffices same : ∀ entries ⊆ step.inputs, (entries.filterMap step.intake?).map Intake.wire =
      ((entries.filter fun entry => !entry.feed.isLiteral).map fun entry =>
        (⟨entry.feed, step.id, entry.input⟩ : Plan.Wire)).filter fun wire =>
          wire.feed.source?.isSome from same step.inputs (List.Subset.refl _)
  intro entries inside
  induction entries with
  | nil => rfl
  | cons entry rest ih =>
    obtain ⟨member, inside⟩ := List.cons_subset.mp inside
    have tail := ih inside
    have pinned := known entry member
    cases feed : entry.feed with
    | linked source =>
      simp only [feed, Feed.source?, Option.isSome_some, forall_const] at pinned
      obtain ⟨pin, stands⟩ := Option.isSome_iff_exists.mp pinned
      simp [Step.intake?, stands, feed, Feed.source?, Feed.isLiteral, Intake.wire, tail]
    | literal value | step id output | ambient =>
      cases stands : step.pin? entry.input <;>
        simp [Step.intake?, stands, feed, Feed.source?, Feed.isLiteral, tail]

namespace Intake

/-- The redirect that serves an intake. -/
def redirect (intake : Intake) (action : Handover) : Redirect :=
  ⟨intake.pin, intake.source, action, intake.target, intake.input⟩

/-- The redirects of one link to all intakes it serves: the last one takes the link over. -/
def spread (group : List Intake) : List Redirect :=
  group.mapIdx fun index intake =>
    intake.redirect (if index + 1 = group.length then .moved else .copied)

/-- The intakes of a pin. -/
def onPin (pin : Pin) (intakes : List Intake) : List Intake :=
  intakes.filter fun intake => intake.pin = pin

/-- The pins that intakes read, in the order in which they are first read. -/
def pins (intakes : List Intake) : List Pin :=
  (intakes.map Intake.pin).eraseDups

/-- The redirects of all links, by pin in the order in which the pins are first read. -/
def handOver (intakes : List Intake) : List Redirect :=
  (pins intakes).flatMap fun pin => spread (onPin pin intakes)

/-- Spreading a link serves just the intakes it is spread to, in their order. -/
theorem map_intake_spread (group : List Intake) : (spread group).map Redirect.intake = group := by
  refine List.ext_getElem? fun index => ?_
  rw [spread, List.getElem?_map, List.getElem?_mapIdx, Option.map_map]
  exact Option.map_id'

/-- A link is copied to all intakes but the last one, and moved to that. -/
theorem map_action_spread {group : List Intake} (filled : group ≠ []) :
    (spread group).map Redirect.action =
      List.replicate (group.length - 1) .copied ++ [.moved] := by
  obtain ⟨before, last, rfl⟩ := List.eq_nil_or_concat' group |>.resolve_left filled
  refine List.ext_getElem? fun index => ?_
  rw [spread, List.getElem?_map, List.getElem?_mapIdx, Option.map_map]
  simp only [List.length_append, List.length_singleton, Nat.add_sub_cancel]
  rcases Nat.lt_trichotomy index before.length with early | rfl | late
  · have more : index ≠ before.length := by omega
    simp [List.getElem?_append_left, early, redirect, more]
  · simp [redirect]
  · -- Past the last intake there are neither redirects nor actions.
    have short : (before ++ [last]).length ≤ index := by
      rw [List.length_append, List.length_singleton]
      exact late
    have few :
        (List.replicate before.length Handover.copied ++ [Handover.moved]).length ≤ index := by
      rw [List.length_append, List.length_replicate, List.length_singleton]
      exact late
    rw [List.getElem?_eq_none short, List.getElem?_eq_none few]
    rfl

/-- A link has redirects just if there is an intake to serve. -/
theorem spread_ne_nil_iff {group : List Intake} : spread group ≠ [] ↔ group ≠ [] := by
  simp [spread]

/-- Just one redirect of a link that has any moves it. -/
theorem length_moved_spread {group : List Intake} (filled : group ≠ []) :
    ((spread group).filter fun redirect => redirect.action = .moved).length = 1 := by
  -- Moves can be counted among the actions, of which the last one alone is a move.
  have counted : ((spread group).map Redirect.action).count .moved =
      ((spread group).filter fun redirect => redirect.action = .moved).length := by
    rw [List.count, List.countP_map, List.countP_eq_length_filter]
    rfl
  rw [← counted, map_action_spread filled, List.count_append, List.count_replicate]
  rfl

/-- Every redirect of a spread link is for one of its intakes. -/
theorem intake_mem_of_mem_spread {group : List Intake} {redirect : Redirect}
    (member : redirect ∈ spread group) : redirect.intake ∈ group := by
  have served := List.mem_map_of_mem (f := Redirect.intake) member
  rwa [map_intake_spread] at served

/-- Every intake of a pin reads it. -/
theorem pin_of_mem_onPin {pin : Pin} {intakes : List Intake} {intake : Intake}
    (member : intake ∈ onPin pin intakes) : intake.pin = pin := by
  simpa using (List.mem_filter.mp member).2

/-- A pin is read just if one of the intakes reads it. -/
theorem mem_pins_iff {pin : Pin} {intakes : List Intake} :
    pin ∈ pins intakes ↔ onPin pin intakes ≠ [] := by
  rw [pins, List.mem_eraseDups, List.mem_map, ne_eq, onPin, List.filter_eq_nil_iff]
  simp

variable {intakes : List Intake}

/-- The redirects of the link into a pin are redirects of that pin. -/
theorem pin_of_mem_spread {pin : Pin} {redirect : Redirect}
    (member : redirect ∈ spread (onPin pin intakes)) : redirect.pin = pin :=
  pin_of_mem_onPin (intake_mem_of_mem_spread member)

/-- The redirects of a pin are those of its own link. -/
theorem filter_pin_handOver (pin : Pin) (intakes : List Intake) :
    (handOver intakes).filter (fun redirect => redirect.pin = pin) =
      spread (onPin pin intakes) := by
  have own : ∀ other, (spread (onPin other intakes)).filter (fun redirect => redirect.pin = pin) =
      if other = pin then spread (onPin other intakes) else [] := by
    intro other
    by_cases same : other = pin
    · rw [if_pos same, List.filter_eq_self]
      intro redirect member
      simpa [same] using pin_of_mem_spread member
    · rw [if_neg same, List.filter_eq_nil_iff]
      intro redirect member
      simpa [pin_of_mem_spread member] using same
  rw [handOver, List.filter_flatMap]
  simp only [own]
  have distinct : (pins intakes).Nodup := nodup_eraseDups _
  rw [flatMap_single distinct pin fun other => spread (onPin other intakes)]
  -- A pin that no intake reads has no redirects.
  by_cases read : pin ∈ pins intakes
  · rw [if_pos read]
  · rw [if_neg read]
    rw [mem_pins_iff, ne_eq, not_not] at read
    rw [read]
    rfl

/-- Redirects stand pin by pin, in the order in which the pins are first read. -/
theorem handOver_eq_flatMap (intakes : List Intake) :
    handOver intakes = (pins intakes).flatMap fun pin =>
      (handOver intakes).filter fun redirect => redirect.pin = pin := by
  simp only [filter_pin_handOver]
  rfl

/-- Each intake is served by one redirect, and no other redirects are made. -/
theorem map_intake_handOver_perm (intakes : List Intake) :
    ((handOver intakes).map Redirect.intake).Perm intakes := by
  rw [handOver, List.map_flatMap]
  simp only [map_intake_spread, onPin]
  exact flatMap_groups_perm Intake.pin (nodup_eraseDups _) fun intake member =>
    List.mem_eraseDups.mpr (List.mem_map_of_mem member)

/-- A redirect is made for one of the intakes. -/
theorem intake_mem_of_mem_handOver {redirect : Redirect} (member : redirect ∈ handOver intakes) :
    redirect.intake ∈ intakes :=
  (map_intake_handOver_perm intakes).subset (List.mem_map_of_mem member)

/-- Without the intakes of a pin, just the redirects of the pin are missing. -/
theorem handOver_filter (pin : Pin) (intakes : List Intake) :
    handOver (intakes.filter fun intake => intake.pin ≠ pin) =
      (handOver intakes).filter fun redirect => redirect.pin ≠ pin := by
  have read : pins (intakes.filter fun intake => intake.pin ≠ pin) =
      (pins intakes).filter fun other => other ≠ pin := by
    rw [pins, pins, ← eraseDups_filter, List.filter_map]
    rfl
  have kept : ∀ other ≠ pin,
      onPin other (intakes.filter fun intake => intake.pin ≠ pin) = onPin other intakes := by
    intro other apart
    rw [onPin, onPin, List.filter_filter]
    refine List.filter_congr fun intake _ => ?_
    by_cases own : intake.pin = other <;> simp [own, apart]
  rw [handOver, read, handOver, List.filter_flatMap]
  rw [← flatMap_filter (fun other => other ≠ pin) (pins intakes)]
  · refine List.flatMap_congr fun other member => ?_
    have apart : other ≠ pin := by simpa using (List.mem_filter.mp member).2
    rw [kept other apart, eq_comm, List.filter_eq_self]
    intro redirect served
    simpa [pin_of_mem_spread served] using apart
  · -- All redirects of the pin itself are left out.
    intro other _ same
    rw [List.filter_eq_nil_iff]
    intro redirect served
    simpa [pin_of_mem_spread served] using same

/-- Where steps are numbered in another way, so are those that redirects lead to. -/
theorem handOver_map (renumber : StepId → StepId) (intakes : List Intake) :
    handOver (intakes.map fun intake => { intake with target := renumber intake.target }) =
      (handOver intakes).map fun redirect =>
        { redirect with target := renumber redirect.target } := by
  have read : pins (intakes.map fun intake =>
      { intake with target := renumber intake.target }) = pins intakes := by
    rw [pins, pins, List.map_map]
    rfl
  have groups : ∀ pin, spread (onPin pin (intakes.map fun intake =>
      { intake with target := renumber intake.target })) =
        (spread (onPin pin intakes)).map fun redirect =>
          { redirect with target := renumber redirect.target } := by
    intro pin
    -- The number of a step has no part in which pin is read, nor in which intake is the last.
    refine List.ext_getElem? fun index => ?_
    simp only [onPin, List.filter_map, spread, List.getElem?_map, List.getElem?_mapIdx,
      Option.map_map, List.length_map, Function.comp_def]
    rfl
  rw [handOver, read, handOver, List.map_flatMap]
  simp only [groups]

end Intake

end CallChain

import CallChain.Node.Edit
import CallChain.Proofs.Lowering.Inputs
import CallChain.Proofs.Lowering.Wiring

/-! Isomorphic plans: when lowering a node another time gives the same chain by the equality that
plans are compared with. -/

namespace CallChain

/-- A float equals itself just if it is a number. -/
@[simp] theorem Binary64.agrees_self (x : Binary64) : x.agrees x = !x.isNaN := by
  simp [Binary64.agrees]

/-- Whether a feed is a literal that is no number. -/
def Feed.isNaN : Feed → Bool
  | .literal (.float x) => x.isNaN
  | _ => false

/-- A feed equals itself unless it is a literal that is no number. -/
theorem Feed.agrees_self (feed : Feed) : feed.agrees feed = !feed.isNaN := by
  -- Floats are compared as numbers, and all else as it is.
  cases feed with
  | literal value => cases value <;> simp [Feed.agrees, Value.agrees, Feed.isNaN]
  | linked source => simp [Feed.agrees, Feed.isNaN]
  | step id output => simp [Feed.agrees, Feed.isNaN]
  | ambient => simp [Feed.agrees, Feed.isNaN]

/-- A list equals itself just if all of its elements do. -/
theorem isEqv_self_iff {α : Type} {agrees : α → α → Bool} {elements : List α} :
    elements.isEqv elements agrees = true ↔
      ∀ element ∈ elements, agrees element element = true := by
  induction elements with
  | nil => simp [List.isEqv]
  | cons first rest ih => simp [List.isEqv, ih]

/-- A step equals itself just if no input of it is fed with a literal that is no number. -/
theorem Step.agrees_self_iff {step : Step} :
    step.agrees step = true ↔ ∀ entry ∈ step.inputs, entry.feed.isNaN = false := by
  simp [Step.agrees, isEqv_self_iff, Feed.agrees_self]

/-- A plan is the same chain as itself just if it holds no literal that is no number. -/
theorem Plan.sameChain_self_iff {plan : Plan} :
    plan.sameChain plan = true ↔
      (∀ step ∈ plan.steps, ∀ entry ∈ step.inputs, entry.feed.isNaN = false) ∧
        plan.output.isNaN = false := by
  simp [Plan.sameChain, isEqv_self_iff, Step.agrees_self_iff, Feed.agrees_self]

namespace Node

variable {node : Node} {feeds : Feeds} {plan : Plan}

/-- Where a slot falls back to a float literal, the literal is a number. -/
def FallsBackToNumbers (node : Node) : Prop :=
  ∀ slot ∈ node.slots.entries, node.link? (.slot slot.id) = none →
    ∀ x, slot.default = some (.float x) → x.isNaN = false

/-- What serves a fixed pin is never a float, and so never one that is no number. -/
theorem Serves.isNaN_eq_false {pin : Pin} {fallback : Option Feed} {feed : Feed}
    (serves : node.Serves pin fallback feed)
    (others : ∀ other, fallback = some other → other.isNaN = false) : feed.isNaN = false := by
  unfold Serves at serves
  cases linked : node.link? pin with
  | some link =>
    simp only [linked] at serves
    rw [serves.1]
    rfl
  | none =>
    simp only [linked] at serves
    exact others feed serves

/-- The literal of a fixed pin is a text or a whole number. -/
theorem isNaN_of_literal? {pin : FixedPin} {feed : Feed}
    (falls : (node.fixed.literal? pin).map .literal = some feed) : feed.isNaN = false := by
  obtain ⟨value, literal, rfl⟩ := Option.map_eq_some_iff.mp falls
  -- The context pin has no literal at all.
  cases pin <;> simp only [FixedLiterals.literal?, Option.map_eq_some_iff, reduceCtorEq] at literal
  all_goals
    obtain ⟨_, _, rfl⟩ := literal
    rfl

/-- What serves a slot is no number just if the slot has no link and its literal is no number. -/
theorem ServesSlot.isNaN_iff {slot : Slot} {feed : Feed} (serves : node.ServesSlot slot feed) :
    feed.isNaN = false ↔
      (node.link? (.slot slot.id) = none →
        ∀ x, slot.default = some (.float x) → x.isNaN = false) := by
  unfold ServesSlot Serves at serves
  -- A slot is served by its link, or else by its literal, or else by the zero of its type.
  cases linked : node.link? (.slot slot.id) with
  | some link =>
    -- A linked output takes the place of the literal.
    simp only [linked] at serves
    simp [serves.1, Feed.isNaN]
  | none =>
    simp only [linked, Option.some.injEq] at serves
    subst serves
    cases literal : slot.default with
    | none =>
      -- The zero of a type is a number, even if it is a float.
      cases slot.type <;> simp [Feed.isNaN, Value.zero, Binary64.isNaN, Binary64.fractionField,
        Binary64.zero]
    | some value => cases value <;> simp [Feed.isNaN]

/-- The plan of a node holds no literal that is no number just if no slot falls back to one. -/
theorem Lowers.sameChain_self_iff (lowers : node.Lowers feeds plan) :
    plan.sameChain plan = true ↔ node.FallsBackToNumbers := by
  rw [Plan.sameChain_self_iff]
  -- Only the property steps hold literals that may be floats.
  have output : plan.output.isNaN = false := by
    rw [lowers.output]
    rfl
  have context := lowers.context.isNaN_eq_false (by rintro _ ⟨⟩; rfl)
  have path := lowers.path.isNaN_eq_false fun _ => isNaN_of_literal?
  have itemId := lowers.itemId.isNaN_eq_false fun _ => isNaN_of_literal?
  have priority := lowers.priority.isNaN_eq_false fun _ => isNaN_of_literal?
  simp only [output, and_true]
  constructor
  · intro numbers slot member
    -- The property step of the slot holds what serves it.
    obtain ⟨position, inside, here⟩ := List.mem_iff_getElem.mp member
    obtain ⟨value, valued⟩ := lowers.exists_value inside
    have placed : node.slots.entries[position]? = some slot :=
      List.getElem?_eq_some_iff.mpr ⟨inside, here⟩
    have step := lowers.mem_steps_iff.mpr (.inr (.inr ⟨position, slot, value, placed, valued, rfl⟩))
    have number := numbers _ step ⟨.value, value⟩ (by simp [Plan.propertyStep])
    exact (lowers.serves_slot placed valued).isNaN_iff.mp number
  · intro numbers step member entry read
    rcases lowers.mem_steps_iff.mp member with
      rfl | rfl | ⟨position, slot, value, placed, valued, rfl⟩
    · obtain rfl := List.mem_singleton.mp read
      exact context
    · simp only [Plan.createStep, List.mem_cons, List.not_mem_nil, or_false] at read
      rcases read with rfl | rfl | rfl | rfl | rfl
      · rfl
      · exact path
      · exact itemId
      · exact priority
      · exact context
    · simp only [Plan.propertyStep, List.mem_cons, List.not_mem_nil, or_false] at read
      rcases read with rfl | rfl
      · rfl
      · exact (lowers.serves_slot placed valued).isNaN_iff.mpr
          (numbers slot (List.mem_of_getElem? placed))

/-- A node that is lowered has the same plan under any other id, but for the id. -/
theorem lower_withId (lowered : node.lower = .ok plan) (id : String) :
    ({ node with id } : Node).lower = .ok { plan with nodeId := id } := by
  -- The pins of both nodes have the same links.
  have same : node.SameWiring { node with id } := ⟨rfl, rfl, fun _ _ => rfl⟩
  rw [same.lower_eq, lowered]
  rfl

/-- The plan of a node is isomorphic to itself and to the plan the node has another time, even
under another id, exactly when no slot without a link has a literal that is no number. -/
theorem lower_sameChain_iff (lowered : node.lower = .ok plan) :
    (plan.sameChain plan = true ↔ node.FallsBackToNumbers) ∧
    ∀ id, ∃ again, ({ node with id } : Node).lower = .ok again ∧
      (plan.sameChain again = true ↔ node.FallsBackToNumbers) := by
  obtain ⟨feeds, lowers⟩ := lower_eq_ok lowered
  have itself := lowers.sameChain_self_iff
  -- The comparison leaves the ids of the nodes out.
  exact ⟨itself, fun id => ⟨{ plan with nodeId := id }, lower_withId lowered id, itself⟩⟩

/-- A node with a float slot that has no literal yet. -/
def gauge : Node where
  id := "gauge"
  fixed := ⟨some "UI", some "Gauge", some 0⟩
  slots := ⟨[⟨⟨0⟩, "Speed", .float, none⟩], 1⟩
  links := []

/-- The plan of a node whose slot falls back to zero is isomorphic to its own and the copy's. -/
theorem lower_sameChain_gauge :
    gauge.FallsBackToNumbers ∧ ∃ plan, gauge.lower = .ok plan ∧ plan.sameChain plan = true ∧
      ∃ again, ({ gauge with id := "copy" } : Node).lower = .ok again ∧
        plan.sameChain again = true := by
  have numbers : gauge.FallsBackToNumbers := by
    intro slot member _ x literal
    simp only [gauge, List.mem_singleton] at member
    subst member
    cases literal
  obtain ⟨itself, others⟩ := lower_sameChain_iff (show gauge.lower = .ok _ from rfl)
  obtain ⟨again, repeated, same⟩ := others "copy"
  exact ⟨numbers, _, rfl, itself.mpr numbers, again, repeated, same.mpr numbers⟩

/-- A literal that is no number may be set, and from then on the plan of the node is not even
isomorphic to itself. -/
theorem not_forall_lower_sameChain :
    ¬ ∀ (before after : Node) (id : SlotId) (literal : Value) (plan : Plan),
      before.setDefault id (some literal) = .ok after → after.lower = .ok plan →
        plan.sameChain plan = true := by
  intro always
  have same := always gauge _ ⟨0⟩ (.float ⟨0x7ff8000000000000⟩) _ rfl rfl
  revert same
  decide

end Node

end CallChain

import CallChain.Proofs.Lowering.Inputs
import CallChain.Proofs.Lowering.Meaning
import CallChain.Proofs.Lowering.Redirects
import CallChain.Proofs.Node.Consistency

/-! A plan of a node that was accepted never fails to run, as long as each link it uses is supplied
with a value of the type the link declares. -/

namespace CallChain

/-- Every type accepts itself. -/
theorem ValueType.accepts_self (type : ValueType) : type.accepts type = true := by
  simp [accepts]

/-- The literal of a fixed pin is of the type of the pin. -/
theorem FixedLiterals.type_of_literal? {literals : FixedLiterals} {pin : FixedPin} {value : Value}
    (found : literals.literal? pin = some value) : value.type = pin.type := by
  cases pin with
  | context => cases found
  | path | itemId | priority =>
    obtain ⟨_, _, rfl⟩ := Option.map_eq_some_iff.mp found
    rfl

/-- A link is supplied with a value of the type it declares. -/
def Supply.Meets (supply : Supply) (link : Link) : Prop :=
  ∃ value, supply.get? link.source = some value ∧ value.type = link.sourceType

namespace Node

variable {α : Type} [Bindable α] {node : Node} {supply : Supply}

/-- A pin that is served has data of its type: the supplied value, or what it falls back to. -/
theorem pinData_succeeds {pin : Pin} {served : Option Feed} {feed : Feed} {fallback : Option Value}
    {type : ValueType} (serves : node.Serves pin served feed) (typed : node.pinType? pin = some type)
    (supplied : ∀ link, node.link? pin = some link → supply.Meets link)
    (falls : ∀ other, served = some other → ∃ value, fallback = some value ∧ value.type = type)
    (reader : StepId) (input : Input) :
    ∃ data, node.pinData supply reader input pin fallback type = .ok data := by
  have valued : ∃ value, node.pinValue supply reader input pin fallback = .ok value ∧
      type.accepts value.type = true := by
    unfold Serves at serves
    cases linked : node.link? pin with
    | some link =>
      -- Lowering has checked that the type of the link fits the pin.
      simp only [linked] at serves
      obtain ⟨_, expected, found, fits⟩ := serves
      obtain ⟨value, held, declared⟩ := supplied link linked
      obtain rfl : expected = type := Option.some.inj (found.symm.trans typed)
      exact ⟨value, by simp [pinValue, linked, held], by rw [declared, fits]⟩
    | none =>
      simp only [linked] at serves
      obtain ⟨value, rfl, own⟩ := falls feed serves
      exact ⟨value, by simp [pinValue, linked], by rw [own, ValueType.accepts_self]⟩
  obtain ⟨value, read, accepted⟩ := valued
  rw [← Value.carrier?_isSome, Option.isSome_iff_exists] at accepted
  obtain ⟨data, taken⟩ := accepted
  exact ⟨data, by simp [pinData, read, taken, Bind.bind, Except.bind, Pure.pure, Except.pure]⟩

/-- The context of a node is there: linked, or that of whoever carries the node out. -/
theorem contextData_succeeds {feed : Feed}
    (serves : node.Serves (.fixed .context) (some .ambient) feed)
    (supplied : ∀ link, node.link? (.fixed .context) = some link → supply.Meets link)
    (context : Handle) (reader : StepId) :
    ∃ data, node.contextData supply context reader = .ok data :=
  pinData_succeeds serves rfl supplied (fun _ _ => ⟨_, rfl, rfl⟩) reader .context

/-- A required pin that is served has data: its link or its literal gives it. -/
theorem requiredData_succeeds {pin : FixedPin} {feed : Feed}
    (serves : node.Serves (.fixed pin) ((node.fixed.literal? pin).map .literal) feed)
    (supplied : ∀ link, node.link? (.fixed pin) = some link → supply.Meets link)
    (reader : StepId) (input : Input) :
    ∃ data, node.pinData supply reader input (.fixed pin) (node.fixed.literal? pin) pin.type =
      .ok data := by
  refine pinData_succeeds serves rfl supplied (fun other falls => ?_) reader input
  obtain ⟨value, literal, _⟩ := Option.map_eq_some_iff.mp falls
  exact ⟨value, literal, FixedLiterals.type_of_literal? literal⟩

/-- A slot of a consistent node has a value when what serves it is supplied. -/
theorem slotValue_succeeds {slot : Slot} {feed : Feed} (consistent : node.Consistent)
    (member : slot ∈ node.slots.entries) (serves : node.ServesSlot slot feed)
    (supplied : ∀ link, node.link? (.slot slot.id) = some link → supply.Meets link)
    (position : Nat) : ∃ value, node.slotValue supply position slot = .ok value := by
  have typed : node.pinType? (.slot slot.id) = some slot.type := by
    rw [pinType?, Slots.get?_eq_some_of_mem consistent.ids member, Option.map_some]
  -- The literal is of the slot's type because the slot is sound, and the zero always is.
  have own : (slot.default.getD (.zero slot.type)).type = slot.type := by
    cases literal : slot.default with
    | none => simp
    | some value => exact (consistent.slots slot member).typed value literal
  obtain ⟨data, read⟩ := pinData_succeeds serves typed supplied
    (fun _ _ => ⟨_, rfl, own⟩) (Plan.propertyId position) .value
  exact ⟨_, by rw [Machine.slotValue_eq, read]; rfl⟩

/-- Setting the properties of slots ends well when each slot has a value. -/
theorem bindSlots_succeeds {slots : List Slot}
    (valued : ∀ slot ∈ slots, ∀ position, ∃ value, node.slotValue supply position slot = .ok value)
    (diagnostics : Bool) (object : Handle) (position : Nat) (progress : Progress α) :
    (node.bindSlots supply diagnostics object position slots progress).2 = .ok () := by
  induction slots generalizing position progress with
  | nil => rfl
  | cons slot rest ih =>
    obtain ⟨value, read⟩ := valued slot (by simp) position
    have later := fun other member => valued other (List.mem_cons_of_mem slot member)
    simp only [bindSlots, read]
    -- Whatever becomes of the property, the next slot is set.
    exact ih later (position + 1) _

/-- What is done with an object ends well when each slot has a value, also for no object at all. -/
theorem configure_succeeds {diagnostics : Bool}
    (valued : ∀ slot ∈ node.slots.entries, ∀ position,
      ∃ value, node.slotValue supply position slot = .ok value)
    (object : Handle) (progress : Progress α) :
    ∃ report, (node.configure supply diagnostics object progress).result = .ok report := by
  unfold configure
  -- For an invalid handle nothing is left to do that could fail.
  split
  · have ends := bindSlots_succeeds valued diagnostics object 0 progress
    exact ⟨_, congrArg (Except.map _) ends⟩
  · exact ⟨_, rfl⟩

variable {feeds : Feeds} {plan : Plan}

/-- Carrying out a consistent node ends well when the links that its plan uses are supplied. -/
theorem interpret_succeeds (consistent : node.Consistent) (lowers : node.Lowers feeds plan)
    (supplied : ∀ use ∈ node.pinUses, ∀ link, node.link? use.pin = some link → supply.Meets link)
    (context : Handle) (diagnostics : Bool) (manager : Manager α) :
    ∃ report, (node.interpret supply context diagnostics manager).result = .ok report := by
  have contextual := supplied ⟨.fixed .context, Plan.locateId, .context⟩ (by simp [pinUses])
  have located := contextData_succeeds lowers.context contextual context
  have requested : ∃ request, node.itemRequest supply context = .ok request := by
    -- The pins of the item are read one after the other, and none of them fails.
    refine bind_succeeds ?_ fun _ => bind_succeeds ?_ fun _ => bind_succeeds ?_ fun _ =>
      bind_succeeds (located Plan.createId) fun _ => ⟨_, rfl⟩
    · exact requiredData_succeeds lowers.path
        (supplied ⟨.fixed .path, Plan.createId, .path⟩ (by simp [pinUses])) _ _
    · exact requiredData_succeeds lowers.itemId
        (supplied ⟨.fixed .itemId, Plan.createId, .itemId⟩ (by simp [pinUses])) _ _
    · exact requiredData_succeeds lowers.priority
        (supplied ⟨.fixed .priority, Plan.createId, .priority⟩ (by simp [pinUses])) _ _
  have valued : ∀ slot ∈ node.slots.entries, ∀ position,
      ∃ value, node.slotValue supply position slot = .ok value := by
    intro slot member position
    obtain ⟨place, bound, here⟩ := List.mem_iff_getElem.mp member
    obtain ⟨feed, fed⟩ := lowers.exists_value bound
    have placed : node.slots.entries[place]? = some slot := here ▸ List.getElem?_eq_getElem bound
    have used : ⟨.slot slot.id, Plan.propertyId place, .value⟩ ∈ node.pinUses :=
      List.mem_append_right _ (List.mem_mapIdx.mpr ⟨place, bound, by rw [here]⟩)
    exact slotValue_succeeds consistent member (lowers.serves_slot placed fed) (supplied _ used)
      position
  obtain ⟨first, found⟩ := located Plan.locateId
  obtain ⟨request, asked⟩ := requested
  simp only [interpret, found, asked]
  exact configure_succeeds valued _ _

/-- Running the plan of an accepted node never fails: it is enough that every link on a pin the
plan uses is supplied with a value of the type it declares, whatever the manager does. -/
theorem run_of_validate_succeeds (valid : node.validate = .ok ()) (lowered : node.lower = .ok plan)
    (supplied : ∀ link ∈ node.links, (∃ redirect ∈ plan.redirects, redirect.pin = link.pin) →
      supply.Meets link)
    (context : Handle) (diagnostics : Bool) (manager : Manager α) :
    ∃ report, (RunSetting.run ⟨plan, supply, context, diagnostics⟩ manager).result =
      .ok report := by
  obtain ⟨growing, consistent⟩ := validate_eq_ok_iff.mp valid
  obtain ⟨feeds, lowers⟩ := lower_eq_ok lowered
  -- Ids are distinct and below the counter, so there are never too many slots for a plan.
  have small : node.slots.entries.length ≤ 4294967294 := by
    have bounded := consistent.length_le
    have size := UInt32.toNat_lt node.slots.nextId
    have last : node.slots.nextId.toNat ≠ 4294967295 := fun same =>
      growing (UInt32.toNat_inj.mp same)
    omega
  rw [run_eq_interpret lowers small]
  refine interpret_succeeds consistent lowers (fun use used link linked => ?_) _ _ _
  -- A pin that is read and linked has a redirect, so its link is supplied.
  obtain ⟨redirect, recorded, leads⟩ := exists_redirect lowers.redirects used linked
  obtain ⟨member, landed⟩ := link?_eq_some linked
  exact supplied link member ⟨redirect, recorded, leads.pin.trans landed.symm⟩

/-- The popup is accepted and all its links are supplied, so it can be shown by any manager. -/
theorem run_of_validate_succeeds_popup :
    popup.validate = .ok () ∧ ∃ plan, popup.lower = .ok plan ∧
      (∀ link ∈ popup.links, (∃ redirect ∈ plan.redirects, redirect.pin = link.pin) →
        popupSupply.Meets link) ∧
      ∀ manager : Manager Bag,
        ∃ report, (RunSetting.run ⟨plan, popupSupply, .invalid, true⟩ manager).result =
          .ok report := by
  have valid : popup.validate = .ok () := by decide +kernel
  have supplied : ∀ link ∈ popup.links, popupSupply.Meets link := by
    simp [popup, popupSupply, Supply.Meets, Supply.get?, Value.type]
  exact ⟨valid, _, rfl, fun link member _ => supplied link member,
    run_of_validate_succeeds valid rfl (fun link member _ => supplied link member) .invalid true⟩

end Node

end CallChain

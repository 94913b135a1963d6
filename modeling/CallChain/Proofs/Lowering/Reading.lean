import CallChain.Proofs.Lowering.Steps
import CallChain.Proofs.Run.Machine
import CallChain.Proofs.Value.Conversion
import CallChain.Run.Interpretation

/-! What the steps of a plan read from their inputs is what the node's pins have to give. -/

namespace CallChain

variable {α : Type}

namespace Machine

/-- The machine holds the object that the property steps of a plan work on. -/
def Holds (machine : Machine α) (object : Handle) : Prop :=
  machine.product? Plan.createId .handle = some (.handle object)

/-- What is held is what the plan of a node gives downstream. -/
theorem output_handle {machine : Machine α} {object : Handle} (held : machine.Holds object) :
    machine.output Plan.handle = .ok object := by
  unfold Holds at held
  simp only [output, Plan.handle, held]

/-- What is held does not depend on the trace. -/
theorem holds_record {machine : Machine α} {object : Handle} (held : machine.Holds object)
    (entry : TraceEntry) : (machine.record entry).Holds object :=
  held

variable {node : Node} {setting : RunSetting} {machine : Machine α} {step : Step}

/-- What serves a pin has the value of the pin, when that is so of what the pin falls back to. -/
theorem resolve_served {pin : Pin} {feed : Feed} {fallback : Option Feed} {value : Option Value}
    (serves : node.Serves pin fallback feed)
    (falls : ∀ other, fallback = some other →
      ∃ known, value = some known ∧ machine.resolve setting step.id other = .ok known)
    (input : Input) :
    machine.resolve setting step.id feed =
      node.pinValue setting.supply step.id input pin value := by
  unfold Node.Serves at serves
  cases linked : node.link? pin with
  | some link =>
    -- Both look the link up among what is supplied.
    simp only [linked] at serves
    obtain ⟨rfl, _⟩ := serves
    cases held : setting.supply.get? link.source <;>
      simp only [resolve, Node.pinValue, linked, held]
  | none =>
    simp only [linked] at serves
    obtain ⟨known, rfl, resolved⟩ := falls feed serves
    simp only [resolved, Node.pinValue, linked]

/-- An input fed with what serves a pin has the data of the pin. -/
theorem typed_served {pin : Pin} {input : Input} {feed : Feed} {fallback : Option Feed}
    {value : Option Value} (fed : step.feed? input = some feed)
    (serves : node.Serves pin fallback feed)
    (falls : ∀ other, fallback = some other →
      ∃ known, value = some known ∧ machine.resolve setting step.id other = .ok known)
    (type : ValueType) :
    machine.typed setting step input type =
      node.pinData setting.supply step.id input pin value type := by
  rw [typed_eq fed, resolve_served serves falls input]
  rfl

/-- The context input of a step has the context of the node. -/
theorem typed_context {feed : Feed} (fed : step.feed? .context = some feed)
    (serves : node.Serves (.fixed .context) (some .ambient) feed) :
    machine.typed setting step .context .object =
      node.contextData setting.supply setting.context step.id := by
  refine typed_served fed serves ?_ .object
  rintro _ ⟨⟩
  exact ⟨_, rfl, rfl⟩

/-- A required input of a step has the data of its fixed pin. -/
theorem typed_required {pin : FixedPin} {input : Input} {feed : Feed}
    (fed : step.feed? input = some feed)
    (serves : node.Serves (.fixed pin) ((node.fixed.literal? pin).map .literal) feed)
    (type : ValueType) :
    machine.typed setting step input type =
      node.pinData setting.supply step.id input (.fixed pin) (node.fixed.literal? pin) type := by
  refine typed_served fed serves ?_ type
  intro other falls
  obtain ⟨known, literal, rfl⟩ := Option.map_eq_some_iff.mp falls
  exact ⟨known, literal, rfl⟩

/-- The target of a property step is the object the machine holds. -/
theorem typed_target {object : Handle} (held : machine.Holds object)
    (fed : step.feed? .target = some Plan.handle) :
    machine.typed setting step .target .object = .ok object := by
  unfold Holds at held
  rw [typed_eq fed]
  simp only [Plan.handle, resolve, held]
  rfl

/-- The value of a slot is what its value input has data of. -/
theorem slotValue_eq (node : Node) (supply : Supply) (position : Nat) (slot : Slot) :
    node.slotValue supply position slot =
      (node.pinData supply (Plan.propertyId position) .value (.slot slot.id)
        (some (slot.default.getD (.zero slot.type))) slot.type).map (.ofCarrier slot.type) := by
  simp only [Node.slotValue, Node.pinData]
  cases node.pinValue supply (Plan.propertyId position) .value (.slot slot.id)
      (some (slot.default.getD (.zero slot.type))) with
  | error fault => rfl
  | ok value =>
    -- Both fail on the same values, and otherwise convert to the same value.
    have converted := Value.map_carrier? value slot.type
    simp only [Bind.bind, Except.bind, ← converted]
    cases value.carrier? slot.type <;> rfl

/-- A slot with a value has data of the slot's type. -/
theorem slotValue_eq_ok {supply : Supply} {position : Nat} {slot : Slot} {value : Value}
    (valued : node.slotValue supply position slot = .ok value) :
    ∃ data, node.pinData supply (Plan.propertyId position) .value (.slot slot.id)
      (some (slot.default.getD (.zero slot.type))) slot.type = .ok data ∧
      .ofCarrier slot.type data = value := by
  rw [slotValue_eq] at valued
  -- The value is made of the data, so there is data.
  cases read : node.pinData supply (Plan.propertyId position) .value (.slot slot.id)
      (some (slot.default.getD (.zero slot.type))) slot.type with
  | error fault => simp [read, Except.map] at valued
  | ok data => exact ⟨data, rfl, by simpa [read, Except.map] using valued⟩

/-- A slot without a value has no data either, for the same reason. -/
theorem slotValue_eq_error {supply : Supply} {position : Nat} {slot : Slot} {fault : RunFault}
    (failed : node.slotValue supply position slot = .error fault) :
    node.pinData supply (Plan.propertyId position) .value (.slot slot.id)
      (some (slot.default.getD (.zero slot.type))) slot.type = .error fault := by
  rw [slotValue_eq] at failed
  cases read : node.pinData supply (Plan.propertyId position) .value (.slot slot.id)
      (some (slot.default.getD (.zero slot.type))) slot.type with
  | error other => simpa [read, Except.map] using failed
  | ok data => simp [read, Except.map] at failed

/-- The value input of a property step has the data of the pin of its slot. -/
theorem typed_slot {slot : Slot} {feed : Feed} (fed : step.feed? .value = some feed)
    (serves : node.ServesSlot slot feed) :
    machine.typed setting step .value slot.type =
      node.pinData setting.supply step.id .value (.slot slot.id)
        (some (slot.default.getD (.zero slot.type))) slot.type := by
  refine typed_served fed serves ?_ slot.type
  rintro _ ⟨⟩
  exact ⟨_, rfl, rfl⟩

end Machine

end CallChain

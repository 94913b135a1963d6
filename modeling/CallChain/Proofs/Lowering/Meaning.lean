import CallChain.Proofs.Lowering.Reading

/-! Running the plan of a node is the same as carrying the node out directly. -/

namespace CallChain

variable {α : Type}

/-- Setting the property of a slot changes the manager, and is told of, as a property step of a run
does it. -/
theorem Progress.bindSlot_eq [Bindable α] (progress : Progress α) (nodeId : String)
    (diagnostics : Bool) (object : Handle) (position : Nat) (slot : Slot) (value : Value) :
    progress.bindSlot nodeId diagnostics object position slot value =
      let (manager, objectType, result) :=
        Machine.bindProperty progress.manager object slot.name value slot.type
      progress.tried nodeId diagnostics object position slot manager objectType result := by
  unfold bindSlot Machine.bindProperty Manager.object? Manager.item?
  -- A handle may stand for no place, and there may be no item at the place it stands for.
  cases stands : Manager.positionOf? object with
  | none => rfl
  | some place =>
    cases placed : progress.manager.items[place]? with
    | none => simp [placed]
    | some item =>
      -- To put the changed item in place of the old one is to change its object only.
      have written (filled : α) : progress.manager.items.set place { item with object := filled } =
          progress.manager.items.modify place fun item => { item with object := filled } := by
        simp [List.modify_eq_set_getElem?, placed]
      simp only [Option.bind_some, placed, Option.map_some, Manager.setObject, stands, written]

namespace Machine

/-- What a machine has done so far, without what its steps have produced. -/
def progress (machine : Machine α) : Progress α :=
  ⟨machine.manager, machine.trace, machine.unresolved, machine.notices⟩

variable {node : Node} {setting : RunSetting} {machine : Machine α}

/-- A property step leaves the object where it is held. -/
theorem holds_finishProperty {object handle : Handle} (held : machine.Holds object) (id : StepId)
    (property : String) (objectType : Option String) (result : Except MissCause Unit) :
    (machine.finishProperty setting id handle property objectType result).Holds object := by
  -- Success of the step is recorded on an output of its own.
  have apart : Output.success ≠ Output.handle := by decide
  cases result with
  | ok _ =>
    simp only [Holds, finishProperty, product?_record, product?_produce_ne _ _ _ _ apart]
    exact held
  | error reason =>
    simp only [Holds, finishProperty, product?_record, product?_produce_ne _ _ _ _ apart]
    exact held

/-- The machine after it has found its manager. -/
def located (machine : Machine α) (context : Handle) : Machine α :=
  let (manager, self) := machine.manager.locate context
  (({ machine with manager }).produce Plan.locateId .manager (.manager self)).record
    (.located Plan.locateId self)

/-- The machine after it has asked its manager for an item. -/
def asked (machine : Machine α) (self : ManagerHandle) (request : ItemRequest) : Machine α :=
  let notices := machine.manager.showNotices self request
  let (manager, object) := machine.manager.createOrShow self request
  let told := { machine with manager, notices := machine.notices ++ notices }
  (told.produce Plan.createId .handle (.handle object)).record
    (.created Plan.createId request.path request.itemId object)

/-- A manager that was found is known by its own handle. -/
theorem product?_located (machine : Machine α) (context : Handle) :
    (machine.located context).product? Plan.locateId .manager =
      some (.manager (machine.manager.locate context).2) := by
  simp [located]

/-- A machine that has asked for an item holds what it was given. -/
theorem holds_asked (machine : Machine α) (self : ManagerHandle) (request : ItemRequest) :
    (machine.asked self request).Holds (machine.manager.createOrShow self request).2 := by
  simp [asked, Holds]

variable [Bindable α]

/-- Carrying the first step out finds the manager for the context of the node. -/
theorem execute_locate {feed : Feed}
    (serves : node.Serves (.fixed .context) (some .ambient) feed) :
    machine.execute setting (Plan.locateStep feed) =
      (node.contextData setting.supply setting.context Plan.locateId).map machine.located := by
  have context : machine.typed setting (Plan.locateStep feed) .context .object =
      node.contextData setting.supply setting.context Plan.locateId := typed_context rfl serves
  simp only [execute, context, Plan.locateStep_call, Plan.locateStep_id]
  cases node.contextData setting.supply setting.context Plan.locateId <;> rfl

/-- Carrying the second step out asks the manager found for the item of the node. -/
theorem execute_create {path itemId priority context : Feed}
    (pathServes : node.Serves (.fixed .path) ((node.fixed.literal? .path).map .literal) path)
    (itemIdServes :
      node.Serves (.fixed .itemId) ((node.fixed.literal? .itemId).map .literal) itemId)
    (priorityServes :
      node.Serves (.fixed .priority) ((node.fixed.literal? .priority).map .literal) priority)
    (contextServes : node.Serves (.fixed .context) (some .ambient) context)
    {self : ManagerHandle}
    (found : machine.product? Plan.locateId .manager = some (.manager self)) :
    machine.execute setting (Plan.createStep path itemId priority context) =
      (node.itemRequest setting.supply setting.context).map (machine.asked self) := by
  have located : machine.managerInput (Plan.createStep path itemId priority context) = .ok self := by
    rw [managerInput, Machine.feed, show (Plan.createStep path itemId priority context).feed?
      .manager = some (.step Plan.locateId .manager) from rfl]
    simp only [Bind.bind, Except.bind, found]
    rfl
  have pathData : machine.typed setting (Plan.createStep path itemId priority context)
      .path .string = _ := typed_required rfl pathServes .string
  have itemIdData : machine.typed setting (Plan.createStep path itemId priority context)
      .itemId .string = _ := typed_required rfl itemIdServes .string
  have priorityData : machine.typed setting (Plan.createStep path itemId priority context)
      .priority .integer = _ := typed_required rfl priorityServes .integer
  have contextData : machine.typed setting (Plan.createStep path itemId priority context)
      .context .object = _ := typed_context rfl contextServes
  simp only [execute, located, pathData, itemIdData, priorityData, contextData, Node.itemRequest,
    Plan.createStep_call, Plan.createStep_id]
  -- The first of the four readings that fails, if one does, is the fault of both.
  cases node.pinData setting.supply Plan.createId .path (.fixed .path)
      (node.fixed.literal? .path) .string with
  | error fault => rfl
  | ok path =>
    cases node.pinData setting.supply Plan.createId .itemId (.fixed .itemId)
        (node.fixed.literal? .itemId) .string with
    | error fault => rfl
    | ok itemId =>
      cases node.pinData setting.supply Plan.createId .priority (.fixed .priority)
          (node.fixed.literal? .priority) .integer with
      | error fault => rfl
      | ok priority =>
        cases node.contextData setting.supply setting.context Plan.createId <;> rfl

/-- Carrying a property step out sets the property of its slot on the object held. -/
theorem execute_property {position : Nat} {slot : Slot} {feed : Feed} {object : Handle}
    (held : machine.Holds object)
    (serves : node.ServesSlot slot feed)
    {value : Value} (valued : node.slotValue setting.supply position slot = .ok value) :
    ∃ executed, machine.execute setting (Plan.propertyStep position slot feed) = .ok executed ∧
      executed.Holds object ∧
      executed.progress = machine.progress.bindSlot setting.plan.nodeId setting.diagnostics
        object position slot value := by
  have target : machine.typed setting (Plan.propertyStep position slot feed) .target .object =
      .ok object := typed_target held rfl
  have typed : machine.typed setting (Plan.propertyStep position slot feed) .value slot.type = _ :=
    typed_slot rfl serves
  obtain ⟨data, read, rfl⟩ := slotValue_eq_ok valued
  simp only [execute, target, typed, read, Plan.propertyStep_call, Plan.propertyStep_id]
  have kept (manager : Manager α) : { machine with manager }.Holds object := held
  refine ⟨_, rfl, holds_finishProperty (kept _) _ _ _ _, ?_⟩
  -- What was done is the same whether the property was set or not.
  rw [Progress.bindSlot_eq]
  simp only [Progress.tried, progress]
  cases (bindProperty machine.manager object slot.name (.ofCarrier slot.type data) slot.type).2.2
    <;> rfl

/-- A property step whose slot has no value cannot be carried out. -/
theorem execute_property_error {position : Nat} {slot : Slot} {feed : Feed} {object : Handle}
    (held : machine.Holds object)
    (serves : node.ServesSlot slot feed)
    {fault : RunFault} (failed : node.slotValue setting.supply position slot = .error fault) :
    machine.execute setting (Plan.propertyStep position slot feed) = .error fault := by
  have target : machine.typed setting (Plan.propertyStep position slot feed) .target .object =
      .ok object := typed_target held rfl
  have typed : machine.typed setting (Plan.propertyStep position slot feed) .value slot.type = _ :=
    typed_slot rfl serves
  -- The object is there, so it is the value that fails.
  simp only [execute, target, typed, slotValue_eq_error failed, Plan.propertyStep_call,
    Plan.propertyStep_id]
  rfl

/-- Following the property steps of a chain sets the properties of their slots in order. -/
theorem advance_slots {object : Handle} (chain : setting.plan.IsChain)
    (named : setting.plan.nodeId = node.id) :
    ∀ (pairs : List (Slot × Feed)) (position : Nat) (done : List Step) (machine : Machine α),
      setting.plan.steps = done ++ Plan.propertySteps position pairs →
      position + pairs.length ≤ 4294967294 →
      (∀ pair ∈ pairs, node.ServesSlot pair.1 pair.2) → machine.Holds object →
      ∃ after ended,
        machine.advance setting pairs.length (Plan.goalOf (Plan.propertySteps position pairs)) =
          (after, ended) ∧
        after.Holds object ∧
        node.bindSlots setting.supply setting.diagnostics object position (pairs.map Prod.fst)
          machine.progress = (after.progress, ended) := by
  intro pairs
  -- One slot is one turn, and what is held stays the same from turn to turn.
  induction pairs with
  | nil =>
    intro position done machine _ _ _ held
    exact ⟨machine, .ok (), rfl, held, rfl⟩
  | cons pair rest ih =>
    intro position done machine split small serves held
    obtain ⟨slot, feed⟩ := pair
    simp only [List.length_cons] at small
    have served : node.ServesSlot slot feed := serves (slot, feed) (by simp)
    have here : setting.plan.steps =
        done ++ Plan.propertyStep position slot feed :: Plan.propertySteps (position + 1) rest :=
      split
    have found := chain.numbered.step?_eq here
    have start : machine.advance setting (rest.length + 1)
        (Plan.goalOf (Plan.propertySteps position ((slot, feed) :: rest))) =
        follow setting (rest.length + 1) machine (Plan.propertyStep position slot feed).id := rfl
    rw [List.length_cons, start]
    simp only [List.map_cons, Node.bindSlots]
    cases valued : node.slotValue setting.supply position slot with
    | error fault =>
      have failed := execute_property_error held served valued
      exact ⟨machine, .error fault, follow_error found failed _, held, rfl⟩
    | ok value =>
      obtain ⟨executed, carried, kept, progressed⟩ := execute_property held served valued
      have plain : (Plan.propertyStep position slot feed).id ≠ Plan.createId :=
        Plan.propertyId_ne_createId (by omega)
      rw [follow_ok found carried (next_plain chain here plain executed)]
      have onward : setting.plan.steps = (done ++ [Plan.propertyStep position slot feed]) ++
          Plan.propertySteps (position + 1) rest := by simp [here]
      have others : ∀ pair ∈ rest, node.ServesSlot pair.1 pair.2 :=
        fun other member => serves other (by simp [member])
      obtain ⟨after, ended, reached, still, bound⟩ :=
        ih (position + 1) _ executed onward (by omega) others kept
      exact ⟨after, ended, reached, still, by rw [← bound, progressed, named]⟩

end Machine

namespace Plan

/-- The property steps of slots set the properties named like them. -/
theorem property?_propertySteps (position : Nat) (pairs : List (Slot × Feed)) :
    (propertySteps position pairs).filterMap (fun step => step.call.property?) =
      pairs.map fun pair => pair.1.name := by
  induction pairs generalizing position with
  | nil => rfl
  | cons pair rest ih =>
    have own : (propertyStep position pair.1 pair.2).call.property? = some pair.1.name := rfl
    simp only [propertySteps, List.filterMap_cons, own, List.map_cons, ih]

/-- The properties left out after an invalid handle are those of all slots. -/
theorem propertiesAfter_create {plan : Plan} {slots : List Slot} {feeds : Feeds}
    (small : slots.length ≤ 4294967294) (fed : slots.length = feeds.values.length)
    (steps : plan.steps = stepsOf slots feeds) :
    Machine.propertiesAfter plan createId = slots.map Slot.name := by
  have bound : 0 + (slots.zip feeds.values).length ≤ 4294967294 := by
    simp only [List.length_zip]
    omega
  have later : ∀ step ∈ propertySteps 0 (slots.zip feeds.values), createId.raw < step.id.raw :=
    fun step member => create_lt_of_mem_propertySteps bound member
  have kept : (propertySteps 0 (slots.zip feeds.values)).filter
      (fun step => createId.raw < step.id.raw) = propertySteps 0 (slots.zip feeds.values) :=
    List.filter_eq_self.mpr fun step member => by simpa using later step member
  have first : ¬ createId.raw < locateId.raw := by decide
  have second : ¬ createId.raw < createId.raw := by decide
  simp only [Machine.propertiesAfter, steps, stepsOf, List.filter_cons, locateStep_id,
    createStep_id, first, second, decide_false, Bool.false_eq_true, if_false, kept]
  -- Every slot has a feed, so none is lost by pairing them up.
  have firsts := congrArg (List.map Slot.name) (List.map_fst_zip (Nat.le_of_eq fed))
  rw [property?_propertySteps, ← firsts, List.map_map]
  rfl

end Plan

namespace Node

/-- From the object on, a run of the plan of a node does what the node is to do with the object. -/
theorem finish_advance [Bindable α] {node : Node} {feeds : Feeds} {setting : RunSetting}
    (lowers : node.Lowers feeds setting.plan) (small : node.slots.entries.length ≤ 4294967294)
    {machine : Machine α} {object : Handle} (held : machine.Holds object) :
    ∃ moved goal, machine.next setting Plan.createId = .ok (moved, goal) ∧
      let (after, ended) :=
        moved.advance setting (node.slots.entries.zip feeds.values).length goal
      after.finish setting ended =
        node.configure setting.supply setting.diagnostics object machine.progress := by
  have chain := lowers.isChain small
  have fed : node.slots.entries.length = feeds.values.length := lowers.values.length_eq
  have split : setting.plan.steps = [Plan.locateStep feeds.context] ++
      Plan.createStep feeds.path feeds.itemId feeds.priority feeds.context ::
        Plan.propertySteps 0 (node.slots.entries.zip feeds.values) := lowers.steps
  cases valid : object.isValid with
  | true =>
    refine ⟨_, _, Machine.next_valid chain split rfl held valid, ?_⟩
    -- The slots are set one by one, each with the feed it was lowered to.
    have steps : setting.plan.steps = [_, _] ++
        Plan.propertySteps 0 (node.slots.entries.zip feeds.values) := lowers.steps
    have serves : ∀ pair ∈ node.slots.entries.zip feeds.values, node.ServesSlot pair.1 pair.2 :=
      fun pair member => (List.forall₂_iff_zip.mp lowers.values).2 member
    have bound : 0 + (node.slots.entries.zip feeds.values).length ≤ 4294967294 := by
      simp only [List.length_zip]
      omega
    obtain ⟨after, ended, reached, still, done⟩ :=
      Machine.advance_slots chain lowers.nodeId _ 0 _ machine steps bound serves held
    rw [List.map_fst_zip (Nat.le_of_eq fed)] at done
    simp only [reached, configure, valid, done, Machine.finish, lowers.output, lowers.nodeId,
      Machine.output_handle still, if_true]
    cases ended <;> rfl
  | false =>
    refine ⟨_, _, Machine.next_invalid chain split rfl held valid, ?_⟩
    -- Nothing is left to do but to give the handle.
    have skipped := Plan.propertiesAfter_create small fed lowers.steps
    have still := Machine.holds_record held
      (.shortCircuited Plan.createId (node.slots.entries.map Slot.name))
    simp only [Machine.advance, Plan.createStep_id, skipped, Machine.finish, lowers.output,
      lowers.nodeId, Machine.output_handle still, configure, valid, Bool.false_eq_true, if_false]
    rfl

/-- Running the plan of a node against a manager, whatever is supplied, is carrying the node out:
the outcome or fault, the manager left behind and the log are the same. -/
theorem run_eq_interpret [Bindable α] {node : Node} {feeds : Feeds} {setting : RunSetting}
    (lowers : node.Lowers feeds setting.plan) (small : node.slots.entries.length ≤ 4294967294)
    (manager : Manager α) :
    setting.run manager =
      node.interpret setting.supply setting.context setting.diagnostics manager := by
  have chain := lowers.isChain small
  have first : setting.plan.steps = [] ++ Plan.locateStep feeds.context :: _ := lowers.steps
  have second : setting.plan.steps = [Plan.locateStep feeds.context] ++
      Plan.createStep feeds.path feeds.itemId feeds.priority feeds.context :: _ := lowers.steps
  have entry : setting.plan.entry? = some (Plan.locateStep feeds.context).id := by
    rw [Plan.entry?, first]
    rfl
  have turns : setting.plan.steps.length =
      (node.slots.entries.zip feeds.values).length + 1 + 1 := by
    simp [lowers.steps, Plan.stepsOf]
  have locate : (Machine.start manager).execute setting (Plan.locateStep feeds.context) = _ :=
    Machine.execute_locate lowers.context
  have locateFound := chain.numbered.step?_eq first
  simp only [RunSetting.run, entry, turns]
  unfold interpret
  cases read : node.contextData setting.supply setting.context Plan.locateId with
  | error fault =>
    rw [read] at locate
    rw [Machine.follow_error locateFound locate]
    rfl
  | ok context =>
    rw [read] at locate
    have plain : (Plan.locateStep feeds.context).id ≠ Plan.createId :=
      show Plan.locateId ≠ Plan.createId by decide
    rw [Machine.follow_ok locateFound locate (Machine.next_plain chain first plain _)]
    -- What is left is the item, asked of the manager that was found.
    have found := Machine.product?_located (Machine.start manager) context
    have create : ((Machine.start manager).located context).execute setting
        (Plan.createStep feeds.path feeds.itemId feeds.priority feeds.context) = _ :=
      Machine.execute_create lowers.path lowers.itemId lowers.priority lowers.context found
    have createFound := chain.numbered.step?_eq second
    have onward (turns : Nat) : Machine.advance ((Machine.start manager).located context) setting
        turns (Plan.goalOf (Plan.createStep feeds.path feeds.itemId feeds.priority feeds.context ::
          Plan.propertySteps 0 (node.slots.entries.zip feeds.values))) =
        Machine.follow setting turns ((Machine.start manager).located context)
          (Plan.createStep feeds.path feeds.itemId feeds.priority feeds.context).id := rfl
    rw [onward]
    cases asked : node.itemRequest setting.supply setting.context with
    | error fault =>
      rw [asked] at create
      rw [Machine.follow_error createFound create]
      rfl
    | ok request =>
      rw [asked] at create
      have held := Machine.holds_asked ((Machine.start manager).located context)
        (manager.locate context).2 request
      obtain ⟨moved, goal, led, ends⟩ := finish_advance lowers small held
      rw [Machine.follow_ok createFound create led]
      exact ends

/-- Lowering preserves meaning: running the plan of a node against any manager, with anything
supplied and in any context, gives the same outcome or fault, leaves the same manager behind and
logs the same as carrying the node out directly. -/
theorem lower_preserves_meaning [Bindable α] {node : Node} {plan : Plan}
    (small : node.slots.entries.length ≤ 4294967294) (lowered : node.lower = .ok plan)
    (supply : Supply) (context : Handle) (diagnostics : Bool) (manager : Manager α) :
    RunSetting.run ⟨plan, supply, context, diagnostics⟩ manager =
      node.interpret supply context diagnostics manager := by
  obtain ⟨feeds, lowers⟩ := lower_eq_ok lowered
  exact run_eq_interpret lowers small manager

/-- A node with linked and literal pins, one slot with a literal, and one fed by a link that has
to be converted. -/
def popup : Node where
  id := "popup"
  fixed := ⟨some "UI", none, some 3⟩
  slots := ⟨[⟨⟨0⟩, "Title", .string, some (.string "Saved")⟩, ⟨⟨4⟩, "Width", .float, none⟩], 5⟩
  links := [⟨.fixed .itemId, ⟨"menu", "item"⟩, .string, .exclusive⟩,
    ⟨.slot ⟨4⟩, ⟨"box", "pixels"⟩, .integer, .shared⟩,
    ⟨.fixed .context, ⟨"world", "self"⟩, .object, .shared⟩]

/-- What is supplied for all links of the popup. -/
def popupSupply : Supply :=
  ⟨[(⟨"menu", "item"⟩, .string "Box"), (⟨"box", "pixels"⟩, .integer 320),
    (⟨"world", "self"⟩, .object ⟨some 7⟩)]⟩

/-- A manager that can make the item of the popup, as a bag with both properties. -/
def boxMaker : Manager Bag :=
  .ofCatalog (fun bag => bag) [⟨"UI", "Box", ⟨"Popup", [⟨"Title", .string⟩, ⟨"Width", .float⟩]⟩⟩]

/-- The popup is lowered, and its plan does to any manager what the popup itself does. A manager
that can make its item gives it under the first handle, and both properties are set. With a manager
that cannot, the run ends at the invalid handle and names what was left out. -/
theorem lower_preserves_meaning_popup :
    popup.slots.entries.length ≤ 4294967294 ∧ ∃ plan, popup.lower = .ok plan ∧
      let run : Manager Bag → RunResult Bag := RunSetting.run ⟨plan, popupSupply, .invalid, true⟩
      let made := run boxMaker
      (∀ manager, run manager = popup.interpret popupSupply .invalid true manager) ∧
        made.result = .ok ⟨⟨some 1⟩, ⟨"popup", [.located ⟨0⟩ ⟨1⟩, .created ⟨1⟩ "UI" "Box" ⟨some 1⟩,
          .bound ⟨2⟩ "Title" true, .bound ⟨3⟩ "Width" true]⟩, []⟩ ∧
        made.manager.priority? ⟨some 1⟩ = some 3 ∧
        (made.manager.object? ⟨some 1⟩).map Bag.entries =
          some [("Title", .string "Saved"), ("Width", .float (.ofInt 320))] ∧
        (run .empty).result = .ok ⟨.invalid, ⟨"popup", [.located ⟨0⟩ ⟨1⟩,
          .created ⟨1⟩ "UI" "Box" .invalid, .shortCircuited ⟨1⟩ ["Title", "Width"]]⟩, []⟩ := by
  refine ⟨by decide, _, rfl, ?_⟩
  intro run made
  have same : ∀ manager, run manager = popup.interpret popupSupply .invalid true manager :=
    lower_preserves_meaning (by decide) rfl popupSupply .invalid true
  -- What the runs give is read off the popup itself.
  have shown : made = popup.interpret popupSupply .invalid true boxMaker := same _
  refine ⟨same, ?_, ?_, ?_, ?_⟩
  · rw [shown]
    decide +kernel
  · rw [shown]
    decide +kernel
  · rw [shown]
    decide +kernel
  · rw [same]
    decide +kernel

end Node

end CallChain

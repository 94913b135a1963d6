import CallChain.Proofs.Binding.Bag
import CallChain.Proofs.Run.Commuting

/-! Running a chain again: on objects that are bags, a run that comes right after the same run gives
what that one gave and leaves what that one left, however far it got. -/

namespace CallChain

namespace Manager

section Objects

variable {α : Type}

/-- The manager with the object of a handle changed, if the handle has one. -/
def modifyObject (manager : Manager α) (handle : Handle) (change : α → α) : Manager α :=
  match positionOf? handle with
  | none => manager
  | some position =>
    { manager with
      items := manager.items.modify position fun item =>
        { item with object := change item.object } }

/-- Changing an object is not logged. -/
@[simp] theorem locates_modifyObject (manager : Manager α) (handle : Handle) (change : α → α) :
    (manager.modifyObject handle change).locates = manager.locates := by
  unfold modifyObject
  cases positionOf? handle <;> rfl

/-- Changing an object is not a request. -/
@[simp] theorem requests_modifyObject (manager : Manager α) (handle : Handle) (change : α → α) :
    (manager.modifyObject handle change).requests = manager.requests := by
  unfold modifyObject
  cases positionOf? handle <;> rfl

/-- Asking for an item is not looking for the manager. -/
theorem locates_createOrShow (manager : Manager α) (request : ItemRequest) :
    (manager.createOrShow ownHandle request).1.locates = manager.locates := by
  unfold createOrShow
  cases manager.position? request.key with
  | some position => rfl
  | none => cases manager.factory? request.key <;> rfl

/-- The object of a handle after it was changed. -/
theorem object?_modifyObject (manager : Manager α) (handle : Handle) (change : α → α) :
    (manager.modifyObject handle change).object? handle = (manager.object? handle).map change := by
  unfold modifyObject object? item?
  cases positionOf? handle with
  | none => rfl
  | some position => simp [Function.comp_def]

/-- Two changes of one object are one change. -/
theorem modifyObject_modifyObject (manager : Manager α) (handle : Handle) (first second : α → α) :
    (manager.modifyObject handle first).modifyObject handle second =
      manager.modifyObject handle fun object => second (first object) := by
  unfold modifyObject
  cases positionOf? handle with
  | none => rfl
  | some position => simp [List.modify_modify_eq, Function.comp_def]

/-- An object that is changed to itself is not changed. -/
theorem modifyObject_id (manager : Manager α) (handle : Handle) :
    manager.modifyObject handle (fun object => object) = manager := by
  unfold modifyObject
  cases positionOf? handle with
  | none => rfl
  | some position => exact congrArg (fun items => { manager with items }) (List.modify_id ..)

/-- It makes no difference to the change of an object what is in the logs. -/
theorem modifyObject_logs (manager : Manager α) (locates : Nat) (requests : List ItemRequest)
    (handle : Handle) (change : α → α) :
    { manager with locates, requests }.modifyObject handle change =
      { manager.modifyObject handle change with locates, requests } := by
  unfold modifyObject
  cases positionOf? handle <;> rfl

/-- Setting a property changes the object of the handle as an offer does, and nothing else. -/
theorem bindProperty_fst [Bindable α] (manager : Manager α) (handle : Handle) (property : String)
    (value : Value) (type : ValueType) :
    (Machine.bindProperty manager handle property value type).1 =
      manager.modifyObject handle fun object =>
        (Bindable.tryBind object property value type).1 := by
  unfold Machine.bindProperty object? item? modifyObject setObject
  cases place : positionOf? handle with
  | none => rfl
  | some position =>
    -- A position past the items stands for no object, and nothing is changed there.
    simp only [Option.bind_some, List.modify_eq_set_getElem?]
    cases held : manager.items[position]? with
    | none => rfl
    | some item => simp

end Objects

section Settled

variable {α : Type} {manager : Manager α} {request : ItemRequest} {handle : Handle}

/-- A request has been answered before: there is an item with its priority at the handle, or the
item cannot be made and the handle is invalid. -/
inductive Settled (manager : Manager α) (request : ItemRequest) : Handle → Prop where
  | shown (position : Nat) (placed : manager.position? request.key = some position)
      (ranked : manager.items[position]?.map LiveItem.priority = some request.priority) :
      Settled manager request (handleFor position)
  | unmade (missing : manager.position? request.key = none)
      (unknown : manager.factory? request.key = none) : Settled manager request .invalid

/-- A request is settled once it was asked. -/
theorem settled_createOrShow (manager : Manager α) (request : ItemRequest) :
    (manager.createOrShow ownHandle request).1.Settled request
      (manager.createOrShow ownHandle request).2 := by
  unfold createOrShow
  simp only [ne_eq, not_true_eq_false, if_false]
  -- The item is shown, or cannot be made, or is made as the last one.
  cases placed : manager.position? request.key with
  | some position =>
    obtain ⟨item, held, _⟩ := exists_item_of_position? placed
    refine .shown position ?_ (by simp [held])
    -- The priority changes, and the key stays where it is.
    have named (item : LiveItem α) :
        ({ item with priority := request.priority } : LiveItem α).key = item.key := rfl
    exact (position?_modify named request.key).trans placed
  | none =>
    cases made : manager.factory? request.key with
    | none => exact .unmade placed made
    | some object =>
      refine .shown manager.items.length ?_ ?_
      · exact position?_append ⟨request.key, request.priority, object⟩ placed
      · simp

/-- A settled request that is asked again changes the log only, and is answered as before. -/
theorem Settled.createOrShow (settled : manager.Settled request handle) :
    manager.createOrShow ownHandle request =
      ({ manager with requests := manager.requests ++ [request] }, handle) := by
  unfold Manager.createOrShow
  cases settled with
  | shown position placed ranked =>
    simp only [ne_eq, not_true_eq_false, if_false, placed]
    -- The item has the priority of the request already.
    obtain ⟨item, held, rank⟩ := Option.map_eq_some_iff.mp ranked
    obtain ⟨bound, rfl⟩ := List.getElem?_eq_some_iff.mp held
    have same := List.set_getElem_self bound
    simp [List.modify_eq_set_getElem?, held, ← rank, same]
  | unmade missing unknown => simp [missing, unknown]

/-- A request stays settled when the manager is looked for. -/
theorem Settled.relocated (settled : manager.Settled request handle) (locates : Nat) :
    { manager with locates }.Settled request handle := by
  cases settled with
  | shown position placed ranked => exact .shown position placed ranked
  | unmade missing unknown => exact .unmade missing unknown

/-- A request stays settled whatever happens to an object. -/
theorem Settled.modifyObject (settled : manager.Settled request handle) (other : Handle)
    (change : α → α) : (manager.modifyObject other change).Settled request handle := by
  unfold Manager.modifyObject
  cases positionOf? other with
  | none => exact settled
  | some place =>
    -- Neither keys nor priorities of items are touched.
    have named (item : LiveItem α) :
        ({ item with object := change item.object } : LiveItem α).key = item.key := rfl
    cases settled with
    | shown position placed ranked =>
      refine .shown position ((position?_modify named request.key).trans placed) ?_
      by_cases own : place = position
      · subst own
        simpa [Function.comp_def] using ranked
      · simpa [own] using ranked
    | unmade missing unknown => exact .unmade ((position?_modify named request.key).trans missing) unknown

end Settled

end Manager

namespace Progress

variable {object : Handle} {first second : Progress Bag}

/-- Two states of a run that tell the same and have objects of one shape at a handle. -/
structure Twins (object : Handle) (first second : Progress Bag) : Prop where
  shape : (first.manager.object? object).map Bag.shape =
    (second.manager.object? object).map Bag.shape
  trace : first.trace = second.trace
  unresolved : first.unresolved = second.unresolved

/-- Setting a property keeps states twins. -/
theorem Twins.bindSlot (twins : Twins object first second) (nodeId : String) (diagnostics : Bool)
    (position : Nat) (slot : Slot) (value : Value) :
    Twins object (first.bindSlot nodeId diagnostics object position slot value)
      (second.bindSlot nodeId diagnostics object position slot value) := by
  have told : (Machine.bindProperty first.manager object slot.name value slot.type).2 =
      (Machine.bindProperty second.manager object slot.name value slot.type).2 := by
    rw [Machine.snd_bindProperty, Machine.snd_bindProperty, twins.shape]
  -- The outcome is the same in both, and so is what is told of it.
  refine ⟨?_, ?_, ?_⟩
  · rw [manager_bindSlot, manager_bindSlot, Manager.bindProperty_fst, Manager.bindProperty_fst,
      Manager.object?_modifyObject, Manager.object?_modifyObject]
    simpa [Function.comp_def] using twins.shape
  · simp only [Progress.bindSlot_eq, Progress.tried, told]
    cases (Machine.bindProperty second.manager object slot.name value slot.type).2.2 <;>
      simp [twins.trace]
  · simp only [Progress.bindSlot_eq, Progress.tried, told]
    cases (Machine.bindProperty second.manager object slot.name value slot.type).2.2 <;>
      simp [twins.unresolved]

end Progress

namespace Node

/-- What a node offers to its object: the values of its slots in order, up to the first slot that
has none. -/
def offers (node : Node) (supply : Supply) : (position : Nat) → List Slot → List Offer
  | _, [] => []
  | position, slot :: rest =>
    match node.slotValue supply position slot with
    | .error _ => []
    | .ok value => ⟨slot.name, value, slot.type⟩ :: node.offers supply (position + 1) rest

/-- An object after everything that a node offers to it. -/
def fill (node : Node) (supply : Supply) (bag : Bag) : Bag :=
  (node.offers supply 0 node.slots.entries).foldl Bag.after bag

variable (node : Node) (supply : Supply) (diagnostics : Bool)

/-- An object that is filled is of the shape that it was of. -/
@[simp] theorem shape_fill (bag : Bag) : (node.fill supply bag).shape = bag.shape :=
  Bag.shape_foldl_after bag _

/-- An object that is filled has everything that the node offers to it. -/
@[simp] theorem fill_fill (bag : Bag) :
    node.fill supply (node.fill supply bag) = node.fill supply bag :=
  Bag.foldl_after_again bag _

/-- Setting the properties of slots changes the object as the offers of the node do, and nothing
else. -/
theorem manager_bindSlots (object : Handle) (position : Nat) (slots : List Slot)
    (progress : Progress Bag) :
    (node.bindSlots supply diagnostics object position slots progress).1.manager =
      progress.manager.modifyObject object fun bag =>
        (node.offers supply position slots).foldl Bag.after bag := by
  -- Each slot adds its offer, until the first one without a value ends both sides.
  induction slots generalizing position progress with
  | nil => exact (progress.manager.modifyObject_id object).symm
  | cons slot rest ih =>
    unfold bindSlots offers
    cases node.slotValue supply position slot with
    | error fault => exact (progress.manager.modifyObject_id object).symm
    | ok value =>
      -- The first offer and those of the rest make up one change.
      rw [ih, Progress.manager_bindSlot, Manager.bindProperty_fst,
        Manager.modifyObject_modifyObject]
      rfl

/-- Setting the properties of slots keeps states twins, and ends in the same way in both. -/
theorem twins_bindSlots {object : Handle} {first second : Progress Bag}
    (twins : Progress.Twins object first second) (position : Nat) (slots : List Slot) :
    Progress.Twins object (node.bindSlots supply diagnostics object position slots first).1
        (node.bindSlots supply diagnostics object position slots second).1 ∧
      (node.bindSlots supply diagnostics object position slots first).2 =
        (node.bindSlots supply diagnostics object position slots second).2 := by
  induction slots generalizing position first second with
  | nil => exact ⟨twins, rfl⟩
  | cons slot rest ih =>
    -- Whether a slot has a value depends on what is supplied only.
    unfold bindSlots
    cases node.slotValue supply position slot with
    | error fault => exact ⟨twins, rfl⟩
    | ok value => exact ih (twins.bindSlot node.id diagnostics position slot value) (position + 1)

/-- What a node does with its object is to fill it, and nothing else changes. -/
theorem manager_configure (object : Handle) (progress : Progress Bag) :
    (node.configure supply diagnostics object progress).manager =
      progress.manager.modifyObject object (node.fill supply) := by
  unfold configure
  cases valid : object.isValid with
  | true => exact node.manager_bindSlots supply diagnostics object 0 node.slots.entries progress
  | false =>
    -- An invalid handle has no object that could be changed.
    have invalid : object.raw = none := by simpa [Handle.isValid] using valid
    simp [Manager.modifyObject, Manager.positionOf?, invalid]

/-- What a node does with its object comes out the same in states that are twins. -/
theorem result_configure {object : Handle} {first second : Progress Bag}
    (twins : Progress.Twins object first second) :
    (node.configure supply diagnostics object first).result =
      (node.configure supply diagnostics object second).result := by
  unfold configure
  obtain ⟨after, ended⟩ := node.twins_bindSlots supply diagnostics twins 0 node.slots.entries
  -- The report is made up of the handle and of what both states tell.
  cases object.isValid with
  | true => simp [ended, after.trace, after.unresolved]
  | false => simp [twins.trace, twins.unresolved]

/-- Asks for the item of a node, and does what the node does with the object that it is given. -/
def fulfil (request : ItemRequest) (manager : Manager Bag) : RunResult Bag :=
  node.configure supply diagnostics (manager.createOrShow Manager.ownHandle request).2
    (opened manager request)

/-- The object that a node is given is filled. -/
theorem manager_fulfil (request : ItemRequest) (manager : Manager Bag) :
    (node.fulfil supply diagnostics request manager).manager =
      (manager.createOrShow Manager.ownHandle request).1.modifyObject
        (manager.createOrShow Manager.ownHandle request).2 (node.fill supply) :=
  node.manager_configure supply diagnostics _ (opened manager request)

/-- A request that is made once more is answered with the object that was filled after it was made
before, and filling that object again changes nothing. -/
theorem fulfil_again (request : ItemRequest) (manager : Manager Bag) (locates : Nat) :
    let first := node.fulfil supply diagnostics request manager
    let second := node.fulfil supply diagnostics request { first.manager with locates }
    second.result = first.result ∧ second.manager =
      { first.manager with locates, requests := first.manager.requests ++ [request] } := by
  intro first second
  have settled := Manager.settled_createOrShow manager request
  have filled : first.manager =
      (manager.createOrShow Manager.ownHandle request).1.modifyObject
        (manager.createOrShow Manager.ownHandle request).2 (node.fill supply) :=
    node.manager_fulfil supply diagnostics request manager
  have told : first.result = (node.configure supply diagnostics
      (manager.createOrShow Manager.ownHandle request).2 (opened manager request)).result := rfl
  generalize answer : manager.createOrShow Manager.ownHandle request = answered
    at settled filled told
  obtain ⟨shown, object⟩ := answered
  -- Filling the object leaves the request settled, so the same handle is given.
  have reanswered : { first.manager with locates }.createOrShow Manager.ownHandle request =
      ({ first.manager with locates, requests := first.manager.requests ++ [request] },
        object) := by
    rw [filled]
    exact ((settled.modifyObject object (node.fill supply)).relocated locates).createOrShow
  constructor
  · have retold : second.result = (node.configure supply diagnostics object
        (opened { first.manager with locates } request)).result := by
      simp only [second, fulfil, reanswered]
    rw [told, retold]
    -- The object is of the shape that it was of before it was filled.
    refine node.result_configure supply diagnostics ⟨?_, ?_, rfl⟩
    · have whole : { first.manager with
            locates, requests := first.manager.requests ++ [request] }.object? object =
          (shown.object? object).map (node.fill supply) := by
        rw [← Manager.object?_modifyObject, ← filled]
        rfl
      simp only [opened, reanswered, answer, whole]
      simp [Function.comp_def]
    · simp only [opened, reanswered, answer]
  · have refilled : second.manager = { first.manager with
        locates, requests := first.manager.requests ++ [request] }.modifyObject object
          (node.fill supply) := by
      have whole := node.manager_fulfil supply diagnostics request { first.manager with locates }
      rw [reanswered] at whole
      exact whole
    -- What was offered is in place already.
    rw [refilled, Manager.modifyObject_logs, filled, Manager.modifyObject_modifyObject]
    simp only [fill_fill]

/-- Carrying a node out a second time comes out as it did the first time, and adds to the logs only,
just what the first time added. -/
theorem interpret_again (context : Handle) (manager : Manager Bag) :
    let first := node.interpret supply context diagnostics manager
    let second := node.interpret supply context diagnostics first.manager
    second.result = first.result ∧ ∃ located asked,
      first.manager.locates = manager.locates + located ∧
      first.manager.requests = manager.requests ++ asked ∧
      second.manager = { first.manager with
        locates := first.manager.locates + located
        requests := first.manager.requests ++ asked } := by
  intro first second
  rcases interpret_cases (α := Bag) node supply diagnostics context with
    ⟨_, located, fault, ends⟩ | ⟨located, request, _, onward⟩
  · -- The fault comes up before anything is asked, both times.
    have one : first = _ := ends manager
    have two : second = _ := ends first.manager
    rw [two, one]
    exact ⟨rfl, located, [], rfl, by simp, by simp⟩
  · have one : first = node.fulfil supply diagnostics request
        { manager with locates := manager.locates + located } := onward manager
    have two : second = node.fulfil supply diagnostics request
        { first.manager with locates := first.manager.locates + located } := onward first.manager
    obtain ⟨result, kept⟩ := node.fulfil_again supply diagnostics request
      { manager with locates := manager.locates + located } (first.manager.locates + located)
    rw [← one, ← two] at result kept
    have asked := (Manager.shows_createOrShow
      { manager with locates := manager.locates + located } request).requests
    refine ⟨result, located, [request], ?_, ?_, kept⟩
    · rw [one, manager_fulfil, Manager.locates_modifyObject, Manager.locates_createOrShow]
    · rw [one, manager_fulfil, Manager.requests_modifyObject, asked]

end Node

namespace RunSetting

/-- Running the plan of a node a second time, right after the first, comes out as the first run did:
with the same handle, trace and missed properties, or with the same fault. It leaves every item with
the object and priority that the first run left, also where the first run stopped half way. Only the
count of looking for the manager and the log of requests grow, by what the first run added. -/
theorem run_again {node : Node} {setting : RunSetting}
    (small : node.slots.entries.length ≤ 4294967294) (lowered : node.lower = .ok setting.plan)
    (manager : Manager Bag) :
    let first := setting.run manager
    let second := setting.run first.manager
    second.result = first.result ∧ ∃ located asked,
      first.manager.locates = manager.locates + located ∧
      first.manager.requests = manager.requests ++ asked ∧
      second.manager = { first.manager with
        locates := first.manager.locates + located
        requests := first.manager.requests ++ asked } := by
  -- The plan does what the node does, and that is known to come out the same a second time.
  obtain ⟨_, lowers⟩ := Node.lower_eq_ok lowered
  simp only [Node.run_eq_interpret lowers small]
  exact node.interpret_again setting.supply setting.diagnostics setting.context manager

/-- What is supplied for the links of the popup but for that of its width. -/
def unsized : Supply :=
  ⟨[(⟨"menu", "item"⟩, .string "Box"), (⟨"world", "self"⟩, .object ⟨some 7⟩)]⟩

/-- The popup without anything on the link of its width: both runs set the title and stop there. -/
theorem run_again_popup : ∃ plan, Node.popup.lower = .ok plan ∧
    let setting : RunSetting := ⟨plan, unsized, .invalid, true⟩
    let first := setting.run board
    let second := setting.run first.manager
    first.result = .error (.missingSupply (Plan.propertyId 1) ⟨"box", "pixels"⟩) ∧
    (first.manager.object? ⟨some 1⟩).bind (·.get? "Title") = some (.string "Saved") ∧
    second.result = first.result ∧ second.manager.items = first.manager.items := by
  refine ⟨_, rfl, ?_⟩
  intro setting first second
  have small : Node.popup.slots.entries.length ≤ 4294967294 := by decide
  have lowered : Node.popup.lower = .ok setting.plan := rfl
  obtain ⟨result, located, asked, _, _, kept⟩ := run_again small lowered board
  have items := congrArg Manager.items kept
  exact ⟨rfl, by decide +kernel, result, items⟩

end RunSetting

end CallChain

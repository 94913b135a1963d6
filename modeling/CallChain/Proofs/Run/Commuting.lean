import CallChain.Proofs.Lowering.Meaning
import CallChain.Proofs.Manager.Keys

/-! Chains for different items commute: what a run does to its own item is the same whatever else
the manager holds, and it does nothing to any other item. -/

namespace CallChain

/-- The handle without its number: all that is left of it is whether it is valid. -/
def Handle.unnumbered (handle : Handle) : Handle :=
  ⟨handle.raw.map fun _ => 0⟩

/-- The entry without the number of the handle that was given. -/
def TraceEntry.unnumbered : TraceEntry → TraceEntry
  | .created step path itemId handle => .created step path itemId handle.unnumbered
  | entry => entry

/-- The report without the number of the handle that was given. -/
def RunReport.unnumbered (report : RunReport) : RunReport where
  output := report.output.unnumbered
  trace := { report.trace with entries := report.trace.entries.map TraceEntry.unnumbered }
  unresolved := report.unresolved

/-- Without their numbers, handles differ just if one of them is valid. -/
theorem Handle.unnumbered_eq_iff {first second : Handle} :
    first.unnumbered = second.unnumbered ↔ first.isValid = second.isValid := by
  obtain ⟨one⟩ := first
  obtain ⟨two⟩ := second
  cases one <;> cases two <;> simp [unnumbered, isValid]

variable {α : Type}

namespace Manager

/-- A manager was changed under the keys of some requests at most, and it has recorded these. -/
structure Confined (asks : List ItemRequest) (before after : Manager α) : Prop where
  items : ∀ key, (∀ request ∈ asks, request.key ≠ key) → after.itemOf? key = before.itemOf? key
  factories : after.factories = before.factories
  requests : after.requests = before.requests ++ asks
  live : after.live ≤ before.live + 1

/-- Where nothing was asked for, two states of a manager agree. -/
theorem Confined.agreeOn {asks : List ItemRequest} {before after : Manager α}
    (confined : Confined asks before after) {key : ItemKey}
    (apart : ∀ request ∈ asks, request.key ≠ key) : AgreeOn key before after where
  item := (confined.items key apart).symm
  factory := by rw [factory?, factory?, confined.factories]

/-- Managers that agree on the item of a request answer it in the same way, and still agree. -/
theorem AgreeOn.createOrShow {first second : Manager α} {request : ItemRequest}
    (agree : AgreeOn request.key first second) :
    AgreeOn request.key (first.createOrShow ownHandle request).1
        (second.createOrShow ownHandle request).1 ∧
      (first.createOrShow ownHandle request).2.isValid =
        (second.createOrShow ownHandle request).2.isValid := by
  have one := shows_createOrShow first request
  have two := shows_createOrShow second request
  -- What is asked for depends only on what the managers agree on.
  have asked : first.asked? request = second.asked? request := by
    rw [asked?, asked?, agree.item, agree.factory]
  refine ⟨⟨?_, ?_⟩, ?_⟩
  · rw [one.item, two.item, asked]
  · rw [one.keeps.factory?_eq, two.keeps.factory?_eq, agree.factory]
  · rw [one.valid, two.valid, asked]

end Manager

variable [Bindable α]

namespace Progress

variable {key : ItemKey} {object twin : Handle}

/-- Two states of a run that look the same from an item, but for the numbers of handles. -/
structure Alike (key : ItemKey) (first second : Progress α) : Prop where
  agree : Manager.AgreeOn key first.manager second.manager
  trace : first.trace.map TraceEntry.unnumbered = second.trace.map TraceEntry.unnumbered
  unresolved : first.unresolved = second.unresolved

/-- Setting the property of a slot changes the manager as the offer to the object does. -/
theorem manager_bindSlot (progress : Progress α) (nodeId : String) (diagnostics : Bool)
    (object : Handle) (position : Nat) (slot : Slot) (value : Value) :
    (progress.bindSlot nodeId diagnostics object position slot value).manager =
      (Machine.bindProperty progress.manager object slot.name value slot.type).1 := by
  rw [bindSlot_eq]
  -- Whether the value was taken shows in the trace only.
  rcases Machine.bindProperty progress.manager object slot.name value slot.type with
    ⟨manager, objectType, result⟩
  cases result <;> rfl

/-- Setting the property of a slot is an offer to the object that the handle refers to. -/
theorem offers_bindSlot {progress : Progress α} (refers : progress.manager.Refers object key)
    (nodeId : String) (diagnostics : Bool) (position : Nat) (slot : Slot) (value : Value) :
    ∃ item, progress.manager.Offers object key
      (progress.bindSlot nodeId diagnostics object position slot value).manager item := by
  obtain ⟨item, held⟩ := refers.exists_item
  rw [manager_bindSlot]
  exact ⟨_, (Manager.offers_bindProperty refers held slot.name value slot.type).1⟩

/-- States that look the same still do after the property of a slot is set in both. -/
theorem Alike.bindSlot {first second : Progress α} (alike : Alike key first second)
    (one : first.manager.Refers object key) (two : second.manager.Refers twin key)
    (nodeId : String) (diagnostics : Bool) (position : Nat) (slot : Slot) (value : Value) :
    Alike key (first.bindSlot nodeId diagnostics object position slot value)
      (second.bindSlot nodeId diagnostics twin position slot value) := by
  obtain ⟨item, held⟩ := one.exists_item
  have same : second.manager.itemOf? key = some item := alike.agree.item ▸ held
  obtain ⟨offers, outcome⟩ :=
    Manager.offers_bindProperty one held slot.name value slot.type
  obtain ⟨twinOffers, twinOutcome⟩ :=
    Manager.offers_bindProperty two same slot.name value slot.type
  have agree : Manager.AgreeOn key
      (Machine.bindProperty first.manager object slot.name value slot.type).1
      (Machine.bindProperty second.manager twin slot.name value slot.type).1 := by
    refine ⟨offers.item.trans twinOffers.item.symm, ?_⟩
    rw [offers.keeps.factory?_eq, twinOffers.keeps.factory?_eq, alike.agree.factory]
  -- The object is the same in both, so it takes the value in both or refuses it in both.
  refine ⟨?_, ?_, ?_⟩
  · rw [manager_bindSlot, manager_bindSlot]
    exact agree
  · simp only [Progress.bindSlot_eq, Progress.tried, outcome, twinOutcome]
    cases (Bindable.tryBind item.object slot.name value slot.type).2 <;>
      simp [Except.mapError, alike.trace]
  · simp only [Progress.bindSlot_eq, Progress.tried, outcome, twinOutcome]
    cases (Bindable.tryBind item.object slot.name value slot.type).2 <;>
      simp [Except.mapError, alike.unresolved]

end Progress

/-- Two runs that are over look the same from an item, but for the numbers of handles. -/
structure RunResult.Alike (key : ItemKey) (first second : RunResult α) : Prop where
  result : first.result.map RunReport.unnumbered = second.result.map RunReport.unnumbered
  agree : Manager.AgreeOn key first.manager second.manager

namespace Node

variable {key : ItemKey} {object twin : Handle}

/-- What a node asks of the manager: its item, once its context and the item are known. -/
def asks (node : Node) (supply : Supply) (context : Handle) : List ItemRequest :=
  match node.contextData supply context Plan.locateId, node.itemRequest supply context with
  | .ok _, .ok request => [request]
  | _, _ => []

variable (node : Node) (supply : Supply) (diagnostics : Bool)

/-- Setting the properties of slots touches no item but that of the handle. -/
theorem keeps_bindSlots {progress : Progress α} (refers : progress.manager.Refers object key)
    (position : Nat) (slots : List Slot) :
    let after := (node.bindSlots supply diagnostics object position slots progress).1
    Manager.Keeps key progress.manager after.manager ∧
      after.manager.requests = progress.manager.requests ∧
      after.manager.live = progress.manager.live := by
  -- The handle refers to the same key after each slot.
  induction slots generalizing position progress with
  | nil => exact ⟨.refl key _, rfl, rfl⟩
  | cons slot rest ih =>
    unfold bindSlots
    cases node.slotValue supply position slot with
    | error fault => exact ⟨.refl key _, rfl, rfl⟩
    | ok value =>
      obtain ⟨item, offers⟩ :=
        Progress.offers_bindSlot refers node.id diagnostics position slot value
      obtain ⟨keeps, requests, live⟩ := ih offers.refers (position + 1)
      exact ⟨offers.keeps.trans keeps, requests.trans offers.requests, live.trans offers.live⟩

/-- Setting the properties of slots leaves states that look the same alike, and ends in the same
way in both. -/
theorem alike_bindSlots {first second : Progress α} (alike : Progress.Alike key first second)
    (one : first.manager.Refers object key) (two : second.manager.Refers twin key)
    (position : Nat) (slots : List Slot) :
    Progress.Alike key (node.bindSlots supply diagnostics object position slots first).1
        (node.bindSlots supply diagnostics twin position slots second).1 ∧
      (node.bindSlots supply diagnostics object position slots first).2 =
        (node.bindSlots supply diagnostics twin position slots second).2 := by
  -- Both states go through the same slots, and each handle goes on referring to the key.
  induction slots generalizing position first second with
  | nil => exact ⟨alike, rfl⟩
  | cons slot rest ih =>
    -- The value of a slot depends on what is supplied, and not on the manager.
    unfold bindSlots
    cases node.slotValue supply position slot with
    | error fault => exact ⟨alike, rfl⟩
    | ok value =>
      obtain ⟨_, offers⟩ := Progress.offers_bindSlot one node.id diagnostics position slot value
      obtain ⟨_, twinOffers⟩ := Progress.offers_bindSlot two node.id diagnostics position slot value
      exact ih (alike.bindSlot one two node.id diagnostics position slot value) offers.refers
        twinOffers.refers (position + 1)

/-- What a node does with its object touches no other item. -/
theorem keeps_configure (progress : Progress α)
    (refers : object.isValid = true → progress.manager.Refers object key) :
    let after := (node.configure supply diagnostics object progress).manager
    Manager.Keeps key progress.manager after ∧ after.requests = progress.manager.requests ∧
      after.live = progress.manager.live := by
  unfold configure
  cases valid : object.isValid with
  | true => exact keeps_bindSlots node supply diagnostics (refers valid) 0 node.slots.entries
  | false => exact ⟨.refl key _, rfl, rfl⟩

/-- What a node does with its object is the same in states that look the same. -/
theorem alike_configure {first second : Progress α} (alike : Progress.Alike key first second)
    (valid : object.isValid = twin.isValid)
    (one : object.isValid = true → first.manager.Refers object key)
    (two : twin.isValid = true → second.manager.Refers twin key) :
    (node.configure supply diagnostics object first).Alike key
      (node.configure supply diagnostics twin second) := by
  have numbers := Handle.unnumbered_eq_iff.mpr valid
  unfold configure
  rw [← valid]
  cases known : object.isValid with
  | true =>
    obtain ⟨after, ended⟩ := alike_bindSlots node supply diagnostics alike (one known)
      (two (valid ▸ known)) 0 node.slots.entries
    refine ⟨?_, after.agree⟩
    simp only [if_true, ended]
    cases (node.bindSlots supply diagnostics twin 0 node.slots.entries second).2 with
    | error fault => rfl
    | ok _ => simp [Except.map, RunReport.unnumbered, numbers, after.trace, after.unresolved]
  | false =>
    -- An invalid handle ends both at once.
    refine ⟨?_, alike.agree⟩
    simp [Except.map, RunReport.unnumbered, numbers, alike.trace, alike.unresolved]

/-- What has been done for a node once its item was asked of a manager. -/
def opened (manager : Manager α) (request : ItemRequest) : Progress α where
  manager := (manager.createOrShow Manager.ownHandle request).1
  trace := [.located Plan.locateId Manager.ownHandle,
    .created Plan.createId request.path request.itemId
      (manager.createOrShow Manager.ownHandle request).2]
  unresolved := []
  notices := manager.showNotices Manager.ownHandle request

/-- Carrying a node out ends with a fault before it asks for anything, or goes on from the item it
asks for. Which of the two, what it asks for and whether the manager is located first does not
depend on the manager. -/
theorem interpret_cases (context : Handle) :
    (node.asks supply context = [] ∧ ∃ located fault, ∀ manager : Manager α,
      node.interpret supply context diagnostics manager =
        ⟨.error fault, { manager with locates := manager.locates + located }, []⟩) ∨
    ∃ located request, node.asks supply context = [request] ∧ ∀ manager : Manager α,
      let ready := { manager with locates := manager.locates + located }
      node.interpret supply context diagnostics manager =
        node.configure supply diagnostics (ready.createOrShow Manager.ownHandle request).2
          (opened ready request) := by
  unfold asks interpret
  cases node.contextData supply context Plan.locateId with
  | error fault => exact .inl ⟨rfl, 0, fault, fun manager => rfl⟩
  | ok located =>
    cases node.itemRequest supply context with
    | error fault => exact .inl ⟨rfl, 1, fault, fun manager => rfl⟩
    | ok request => exact .inr ⟨1, request, rfl, fun manager => rfl⟩

/-- Carrying a node out changes the manager under the key it asks for at most. -/
theorem confined_interpret (manager : Manager α) (room : manager.live + 1 < UInt64.size)
    (context : Handle) :
    manager.Confined (node.asks supply context)
      (node.interpret supply context diagnostics manager).manager := by
  rcases interpret_cases (α := α) node supply diagnostics context with
    ⟨none, located, fault, ends⟩ | ⟨located, request, asked, onward⟩
  · rw [none, ends]
    exact ⟨fun _ _ => rfl, rfl, (List.append_nil _).symm, Nat.le_succ _⟩
  · have shows := Manager.shows_createOrShow
      { manager with locates := manager.locates + located } request
    -- What follows the request is done with the object of its item only.
    obtain ⟨keeps, requests, live⟩ := keeps_configure node supply diagnostics
      (opened { manager with locates := manager.locates + located } request) fun valid =>
        shows.refers valid room
    have whole := shows.keeps.trans keeps
    rw [asked, onward]
    exact ⟨fun key apart => whole.items key (apart request (by simp)), whole.factories,
      requests.trans shows.requests, Nat.le_trans (Nat.le_of_eq live) shows.live⟩

/-- Carrying a node out is the same with managers that agree on the item it asks for, and leaves
them in agreement. -/
theorem alike_interpret {first second : Manager α} (roomy : first.live + 1 < UInt64.size)
    (spacious : second.live + 1 < UInt64.size) (context : Handle)
    (agree : ∀ request ∈ node.asks supply context, Manager.AgreeOn request.key first second) :
    (node.interpret supply context diagnostics first).result.map RunReport.unnumbered =
        (node.interpret supply context diagnostics second).result.map RunReport.unnumbered ∧
      ∀ request ∈ node.asks supply context, Manager.AgreeOn request.key
        (node.interpret supply context diagnostics first).manager
        (node.interpret supply context diagnostics second).manager := by
  rcases interpret_cases (α := α) node supply diagnostics context with
    ⟨none, located, fault, ends⟩ | ⟨located, request, asked, onward⟩
  · -- Nothing is asked for, and the fault is the same.
    rw [none, ends, ends]
    exact ⟨rfl, by simp⟩
  · have one := onward first
    have two := onward second
    rw [asked] at agree ⊢
    have before : Manager.AgreeOn request.key
        { first with locates := first.locates + located }
        { second with locates := second.locates + located } :=
      ⟨(agree request (by simp)).item, (agree request (by simp)).factory⟩
    obtain ⟨after, valid⟩ := before.createOrShow
    have shows := Manager.shows_createOrShow
      { first with locates := first.locates + located } request
    have twinShows := Manager.shows_createOrShow
      { second with locates := second.locates + located } request
    have opens : Progress.Alike request.key
        (opened { first with locates := first.locates + located } request)
        (opened { second with locates := second.locates + located } request) := by
      refine ⟨after, ?_, rfl⟩
      simp [opened, TraceEntry.unnumbered, Handle.unnumbered_eq_iff.mpr valid]
    have alike := alike_configure node supply diagnostics opens valid
      (fun known => shows.refers known roomy) (fun known => twinShows.refers known spacious)
    rw [one, two]
    refine ⟨alike.result, fun other member => ?_⟩
    obtain rfl := List.mem_singleton.mp member
    exact alike.agree

/-- Carrying two nodes out commutes if they ask for different items. -/
theorem interpret_commutes (left right : Node) (first second : RunSetting)
    {manager : Manager α} (room : manager.live + 2 < UInt64.size)
    (apart : ∀ one ∈ left.asks first.supply first.context,
      ∀ two ∈ right.asks second.supply second.context, one.key ≠ two.key) :
    let runLeft (manager : Manager α) :=
      left.interpret first.supply first.context first.diagnostics manager
    let runRight (manager : Manager α) :=
      right.interpret second.supply second.context second.diagnostics manager
    (∀ key, (runRight (runLeft manager).manager).manager.itemOf? key =
      (runLeft (runRight manager).manager).manager.itemOf? key) ∧
    (runLeft manager).result.map RunReport.unnumbered =
      (runLeft (runRight manager).manager).result.map RunReport.unnumbered ∧
    (runRight (runLeft manager).manager).result.map RunReport.unnumbered =
      (runRight manager).result.map RunReport.unnumbered ∧
    (∀ key, (∀ request ∈ left.asks first.supply first.context, request.key ≠ key) →
      (runLeft manager).manager.itemOf? key = manager.itemOf? key) := by
  intro runLeft runRight
  have confineLeft (start : Manager α) (room : start.live + 1 < UInt64.size) :
      start.Confined _ (runLeft start).manager :=
    confined_interpret left first.supply first.diagnostics start room first.context
  have confineRight (start : Manager α) (room : start.live + 1 < UInt64.size) :
      start.Confined _ (runRight start).manager :=
    confined_interpret right second.supply second.diagnostics start room second.context
  have onlyLeft := confineLeft manager (by omega)
  have onlyRight := confineRight manager (by omega)
  have roomLeft : (runLeft manager).manager.live + 1 < UInt64.size := by
    have grown := onlyLeft.live
    omega
  have roomRight : (runRight manager).manager.live + 1 < UInt64.size := by
    have grown := onlyRight.live
    omega
  have rightLater := confineRight _ roomLeft
  have leftLater := confineLeft _ roomRight
  -- Neither touches what the other asks for, so each finds the same for itself in both orders.
  obtain ⟨sameLeft, agreeLeft⟩ := alike_interpret left first.supply first.diagnostics
    (by omega) roomRight first.context fun one asked =>
      onlyRight.agreeOn fun two => (apart one asked two · |>.symm)
  obtain ⟨sameRight, agreeRight⟩ := alike_interpret right second.supply second.diagnostics
    (by omega) roomLeft second.context fun two asked =>
      onlyLeft.agreeOn fun one member => apart one member two asked
  refine ⟨fun key => ?_, sameLeft, sameRight.symm, onlyLeft.items⟩
  by_cases byLeft : ∃ one ∈ left.asks first.supply first.context, one.key = key
  · -- The item of the left node is finished before the right one begins.
    obtain ⟨one, asked, rfl⟩ := byLeft
    rw [rightLater.items one.key fun two member => (apart one asked two member).symm]
    exact (agreeLeft one asked).item
  · have notLeft : ∀ one ∈ left.asks first.supply first.context, one.key ≠ key :=
      fun one asked same => byLeft ⟨one, asked, same⟩
    rw [leftLater.items key notLeft]
    by_cases byRight : ∃ two ∈ right.asks second.supply second.context, two.key = key
    · obtain ⟨two, asked, rfl⟩ := byRight
      exact (agreeRight two asked).item.symm
    · -- Neither of them asks for the item.
      have notRight : ∀ two ∈ right.asks second.supply second.context, two.key ≠ key :=
        fun two asked same => byRight ⟨two, asked, same⟩
      rw [rightLater.items key notRight, onlyLeft.items key notLeft, onlyRight.items key notRight]

end Node

namespace RunSetting

/-- What a run of the plan asks of a manager. -/
def asks (setting : RunSetting) (manager : Manager α) : List ItemRequest :=
  (setting.run manager).manager.requests.drop manager.requests.length

/-- A run of the plan of a node asks what the node asks. -/
theorem asks_eq {node : Node} {setting : RunSetting}
    (small : node.slots.entries.length ≤ 4294967294) (lowered : node.lower = .ok setting.plan)
    (manager : Manager α) (room : manager.live + 1 < UInt64.size) :
    setting.asks manager = node.asks setting.supply setting.context := by
  obtain ⟨feeds, lowers⟩ := Node.lower_eq_ok lowered
  -- A run is the same as carrying the node out, which records just what the node asks for.
  have confined :=
    Node.confined_interpret node setting.supply setting.diagnostics manager room setting.context
  rw [asks, Node.run_eq_interpret lowers small, confined.requests, List.drop_left]

/-- Runs of the plans of two nodes commute if they ask for different items, whatever is supplied
and in any context. In both orders the manager ends up with the same object and priority under each
key or with none, and each run has the same fault or the same report but for the number of its
handle. A run changes nothing under any key but the one it asks for. -/
theorem runs_commute {left right : Node} {first second : RunSetting}
    (smallLeft : left.slots.entries.length ≤ 4294967294)
    (smallRight : right.slots.entries.length ≤ 4294967294)
    (firstLowered : left.lower = .ok first.plan) (secondLowered : right.lower = .ok second.plan)
    {manager : Manager α} (room : manager.live + 2 < UInt64.size)
    (apart : ∀ one ∈ first.asks manager, ∀ two ∈ second.asks manager, one.key ≠ two.key) :
    (∀ key, (second.run (first.run manager).manager).manager.itemOf? key =
      (first.run (second.run manager).manager).manager.itemOf? key) ∧
    (first.run manager).result.map RunReport.unnumbered =
      (first.run (second.run manager).manager).result.map RunReport.unnumbered ∧
    (second.run (first.run manager).manager).result.map RunReport.unnumbered =
      (second.run manager).result.map RunReport.unnumbered ∧
    (∀ key, (∀ request ∈ first.asks manager, request.key ≠ key) →
      (first.run manager).manager.itemOf? key = manager.itemOf? key) := by
  rw [asks_eq smallLeft firstLowered manager (by omega),
    asks_eq smallRight secondLowered manager (by omega)] at apart
  rw [asks_eq smallLeft firstLowered manager (by omega)]
  obtain ⟨_, leftLowers⟩ := Node.lower_eq_ok firstLowered
  obtain ⟨_, rightLowers⟩ := Node.lower_eq_ok secondLowered
  simp only [Node.run_eq_interpret leftLowers smallLeft,
    Node.run_eq_interpret rightLowers smallRight]
  exact Node.interpret_commutes left right first second (by omega) apart

/-- A node with one slot that no object has, next to the popup. -/
def badge : Node where
  id := "badge"
  fixed := ⟨some "UI", some "Badge", some 1⟩
  slots := ⟨[⟨⟨0⟩, "Count", .integer, some (.integer 4)⟩, ⟨⟨1⟩, "Shade", .string, none⟩], 2⟩
  links := []

/-- A manager that can make the item of the popup and that of the badge. -/
def board : Manager Bag :=
  .ofCatalog id [⟨"UI", "Box", ⟨"Popup", [⟨"Title", .string⟩, ⟨"Width", .float⟩]⟩⟩,
    ⟨"UI", "Badge", ⟨"Badge", [⟨"Count", .integer⟩]⟩⟩]

/-- The popup and the badge are made in either order, each with its own number, and look the same
in the end. -/
theorem runs_commute_board : ∃ popup badged, Node.popup.lower = .ok popup ∧
    badge.lower = .ok badged ∧
    let first : RunSetting := ⟨popup, Node.popupSupply, .invalid, true⟩
    let second : RunSetting := ⟨badged, .empty, .invalid, true⟩
    (∀ one ∈ first.asks board, ∀ two ∈ second.asks board, one.key ≠ two.key) ∧
    ∀ key, (second.run (first.run board).manager).manager.itemOf? key =
      (first.run (second.run board).manager).manager.itemOf? key := by
  refine ⟨_, _, rfl, rfl, ?_⟩
  intro first second
  have smallPopup : Node.popup.slots.entries.length ≤ 4294967294 := by decide
  have smallBadge : badge.slots.entries.length ≤ 4294967294 := by decide
  have popupLowered : Node.popup.lower = .ok first.plan := rfl
  have badgeLowered : badge.lower = .ok second.plan := rfl
  have room : board.live + 2 < UInt64.size := by decide
  have firstAsks : first.asks board = [⟨"UI", "Box", 3, ⟨some 7⟩⟩] :=
    asks_eq smallPopup popupLowered board (by decide)
  have secondAsks : second.asks board = [⟨"UI", "Badge", 1, .invalid⟩] :=
    asks_eq smallBadge badgeLowered board (by decide)
  have apart : ∀ one ∈ first.asks board, ∀ two ∈ second.asks board, one.key ≠ two.key := by
    rw [firstAsks, secondAsks]
    decide
  have commute :=
    runs_commute smallPopup smallBadge popupLowered badgeLowered room apart
  exact ⟨apart, commute.1⟩

end RunSetting

end CallChain

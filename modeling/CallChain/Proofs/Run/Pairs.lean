import CallChain.Proofs.Binding.Bag
import CallChain.Proofs.Run.Forward

/-! Pairs of objects: where objects of two kinds answer offers alike, runs do the same with a
manager of the one kind as with a manager of the other. -/

namespace CallChain

/-- Two steps come to the same end: both fail with one fault, or both give something. -/
inductive SameEnd {ε α β : Type} (related : α → β → Prop) : Except ε α → Except ε β → Prop where
  | ok {first : α} {second : β} (holds : related first second) :
      SameEnd related (.ok first) (.ok second)
  | error (fault : ε) : SameEnd related (.error fault) (.error fault)

/-- What follows the same step comes to the same end if it does so after each value. -/
theorem SameEnd.bind {ε α β γ : Type} {related : α → β → Prop} {step : Except ε γ}
    {first : γ → Except ε α} {second : γ → Except ε β}
    (rest : ∀ value, SameEnd related (first value) (second value)) :
    SameEnd related (step >>= first) (step >>= second) := by
  cases step with
  | error fault =>
    -- Nothing follows a step that fails.
    exact .error fault
  | ok value => exact rest value

section Lists

variable {α β : Type} {related : α → β → Prop} {first : List α} {second : List β}

/-- Lists that are related element by element are so at each position. -/
theorem rel_getElem? (matched : List.Forall₂ related first second) (position : Nat) :
    Option.Rel related first[position]? second[position]? := by
  induction matched generalizing position with
  | nil => exact .none
  | cons head _ ih =>
    cases position with
    | zero => exact .some head
    | succ position => exact ih position

/-- Related lists stay related when both are changed at one position. -/
theorem forall₂_modify (matched : List.Forall₂ related first second) (change : α → α)
    (alter : β → β) (kept : ∀ one two, related one two → related (change one) (alter two))
    (position : Nat) :
    List.Forall₂ related (first.modify position change) (second.modify position alter) := by
  induction matched generalizing position with
  | nil => simp
  | cons head tail ih =>
    cases position with
    | zero => exact .cons (kept _ _ head) tail
    | succ position => exact .cons head (ih position)

end Lists

variable {α β : Type} {paired : α → β → Prop}

/-- Two items of one key and priority with paired objects. -/
structure LiveItem.Paired (paired : α → β → Prop) (first : LiveItem α) (second : LiveItem β) :
    Prop where
  key : first.key = second.key
  priority : first.priority = second.priority
  object : paired first.object second.object

namespace Manager

/-- Two managers that were used alike and hold paired objects, under the same handles and with the
same priorities, and that can make paired objects for the same items. -/
structure Paired (paired : α → β → Prop) (first : Manager α) (second : Manager β) : Prop where
  factories : List.Forall₂ (fun one two => one.1 = two.1 ∧ paired one.2 two.2)
    first.factories second.factories
  items : List.Forall₂ (LiveItem.Paired paired) first.items second.items
  locates : first.locates = second.locates
  requests : first.requests = second.requests

namespace Paired

variable {first : Manager α} {second : Manager β}

/-- Managers with paired objects are paired in every wider sense. -/
theorem mono (pairs : Paired paired first second) {wider : α → β → Prop}
    (widens : ∀ {one two}, paired one two → wider one two) : Paired wider first second where
  factories := pairs.factories.imp fun _ _ made => ⟨made.1, widens made.2⟩
  items := pairs.items.imp fun _ _ item => ⟨item.key, item.priority, widens item.object⟩
  locates := pairs.locates
  requests := pairs.requests

/-- A key has the same position in both. -/
theorem position?_eq (pairs : Paired paired first second) (key : ItemKey) :
    first.position? key = second.position? key := by
  unfold position?
  have matched := pairs.items
  generalize first.items = one, second.items = two at matched
  -- The items have their keys in the same order, so the search passes by the same ones.
  induction matched with
  | nil => rfl
  | cons head _ ih => rw [List.findIdx?_cons, List.findIdx?_cons, head.key, ih]

/-- What can be made for a key is paired. -/
theorem factory? (pairs : Paired paired first second) (key : ItemKey) :
    Option.Rel paired (first.factory? key) (second.factory? key) := by
  unfold Manager.factory?
  have matched := pairs.factories
  generalize first.factories = one, second.factories = two at matched
  -- What is looked through has the same keys in both, with paired objects.
  induction matched with
  | nil => exact .none
  | @cons one two _ _ head _ ih =>
    rw [List.find?_cons, List.find?_cons, head.1]
    cases two.1 == key with
    | true => exact .some head.2
    | false => exact ih

/-- The objects of a handle are paired. -/
theorem object? (pairs : Paired paired first second) (handle : Handle) :
    Option.Rel paired (first.object? handle) (second.object? handle) := by
  unfold Manager.object? item?
  cases positionOf? handle with
  | none =>
    -- The handle stands for no position, whatever the items are.
    exact .none
  | some position =>
    simp only [Option.bind_some]
    have held := rel_getElem? pairs.items position
    generalize first.items[position]? = one, second.items[position]? = two at held
    cases held with
    | none => exact .none
    | some held => exact .some held.object

/-- Managers stay paired when paired objects are put in at one handle. -/
theorem setObject (pairs : Paired paired first second) (handle : Handle) {one : α} {two : β}
    (put : paired one two) :
    Paired paired (first.setObject handle one) (second.setObject handle two) := by
  unfold Manager.setObject
  cases positionOf? handle with
  | none => exact pairs
  | some position =>
    have items := forall₂_modify pairs.items (fun item => { item with object := one })
      (fun item => { item with object := two }) (fun _ _ held => ⟨held.key, held.priority, put⟩)
      position
    exact ⟨pairs.factories, items, pairs.locates, pairs.requests⟩

/-- Both are found in the same way. -/
theorem locate (pairs : Paired paired first second) (context : Handle) :
    Paired paired (first.locate context).1 (second.locate context).1 :=
  ⟨pairs.factories, pairs.items, congrArg (· + 1) pairs.locates, pairs.requests⟩

/-- A request is answered alike by both. -/
theorem createOrShow (pairs : Paired paired first second) (self : ManagerHandle)
    (request : ItemRequest) :
    Paired paired (first.createOrShow self request).1 (second.createOrShow self request).1 ∧
      (first.createOrShow self request).2 = (second.createOrShow self request).2 := by
  have requests : first.requests ++ [request] = second.requests ++ [request] := by
    rw [pairs.requests]
  unfold Manager.createOrShow
  by_cases own : self = ownHandle
  · -- Both look at the same position, for their keys are the same.
    simp only [own, ne_eq, not_true_eq_false, if_false, pairs.position?_eq]
    cases second.position? request.key with
    | some position =>
      -- The item is shown by both, with one priority.
      have items := forall₂_modify pairs.items
        (fun item => { item with priority := request.priority })
        (fun item => { item with priority := request.priority })
        (fun _ _ held => ⟨held.key, rfl, held.object⟩) position
      exact ⟨⟨pairs.factories, items, pairs.locates, requests⟩, rfl⟩
    | none =>
      have made := pairs.factory? request.key
      generalize first.factory? request.key = one, second.factory? request.key = two at made
      cases made with
      | none => exact ⟨⟨pairs.factories, pairs.items, pairs.locates, requests⟩, rfl⟩
      | @some one two made =>
        -- The item is made by both, and stands at the end of lists of one length.
        have item : LiveItem.Paired paired ⟨request.key, request.priority, one⟩
            ⟨request.key, request.priority, two⟩ := ⟨rfl, rfl, made⟩
        have items := List.rel_append pairs.items (.cons item .nil)
        exact ⟨⟨pairs.factories, items, pairs.locates, requests⟩,
          congrArg handleFor pairs.items.length_eq⟩
  · -- Another manager is asked, so both only record the request.
    rw [if_pos own, if_pos own]
    exact ⟨⟨pairs.factories, pairs.items, pairs.locates, requests⟩, rfl⟩

/-- A request is logged alike by both. -/
theorem showNotices (pairs : Paired paired first second) (self : ManagerHandle)
    (request : ItemRequest) :
    first.showNotices self request = second.showNotices self request := by
  unfold Manager.showNotices
  rw [pairs.position?_eq]
  -- What is logged depends on whether the item is there and whether it can be made.
  have made := pairs.factory? request.key
  generalize first.factory? request.key = one, second.factory? request.key = two at made
  cases made <;> rfl

end Paired

end Manager

/-- A property step without effect, whatever the type of its object is called. -/
def Miss.untyped (miss : Miss) : Miss :=
  { miss with objectType := none }

/-- A report, whatever the types of objects are called. -/
def RunReport.untyped (report : RunReport) : RunReport :=
  { report with unresolved := report.unresolved.map Miss.untyped }

namespace Machine

/-- Two machines that have been through the same, one with each of two paired managers. -/
structure Paired (paired : α → β → Prop) (first : Machine α) (second : Machine β) : Prop where
  manager : Manager.Paired paired first.manager second.manager
  produced : first.produced = second.produced
  trace : first.trace = second.trace
  -- Only the names of the types of objects may differ.
  unresolved : first.unresolved.map Miss.untyped = second.unresolved.map Miss.untyped
  notices : first.notices = second.notices

namespace Paired

variable {first : Machine α} {second : Machine β}

/-- An input has the same data in both. -/
theorem typed (pairs : Paired paired first second) (setting : RunSetting) (step : Step)
    (input : Input) (type : ValueType) :
    first.typed setting step input type = second.typed setting step input type := by
  simp only [Machine.typed, resolve, product?, pairs.produced]

/-- A manager is taken from the same step by both. -/
theorem managerInput (pairs : Paired paired first second) (step : Step) :
    first.managerInput step = second.managerInput step := by
  simp only [Machine.managerInput, product?, pairs.produced]

/-- Machines stay paired when they produce the same. -/
theorem produce (pairs : Paired paired first second) (id : StepId) (output : Output)
    (product : Product) :
    Paired paired (first.produce id output product) (second.produce id output product) :=
  { pairs with produced := congrArg (((id, output), product) :: ·) pairs.produced }

/-- Machines stay paired when they record the same. -/
theorem record (pairs : Paired paired first second) (entry : TraceEntry) :
    Paired paired (first.record entry) (second.record entry) :=
  { pairs with trace := congrArg (· ++ [entry]) pairs.trace }

/-- Machines stay paired when they go on with other managers that are paired. -/
theorem handOn (pairs : Paired paired first second) {one : Manager α} {two : Manager β}
    (managers : Manager.Paired paired one two) :
    Paired paired { first with manager := one } { second with manager := two } :=
  { pairs with manager := managers }

/-- Machines stay paired when they log the same. -/
theorem log (pairs : Paired paired first second) (logged : List Notice) :
    Paired paired { first with notices := first.notices ++ logged }
      { second with notices := second.notices ++ logged } :=
  { pairs with notices := congrArg (· ++ logged) pairs.notices }

/-- Machines stay paired when they report the same but for the types of objects. -/
theorem report (pairs : Paired paired first second) {missed lost : List Miss}
    (same : missed.map Miss.untyped = lost.map Miss.untyped) :
    Paired paired { first with unresolved := first.unresolved ++ missed }
      { second with unresolved := second.unresolved ++ lost } where
  manager := pairs.manager
  produced := pairs.produced
  trace := pairs.trace
  unresolved := by rw [List.map_append, List.map_append, pairs.unresolved, same]
  notices := pairs.notices

/-- A property step that ends alike is noted alike by both. -/
theorem finishProperty (pairs : Paired paired first second) (setting : RunSetting) (id : StepId)
    (handle : Handle) (property : String) (one two : Option String)
    (result : Except MissCause Unit) :
    Paired paired (first.finishProperty setting id handle property one result)
      (second.finishProperty setting id handle property two result) := by
  cases result with
  | ok => exact (pairs.produce id .success (.success true)).record (.bound id property true)
  | error reason =>
    -- What is reported differs in the type of the object only.
    have missed : (if setting.diagnostics then [(⟨id, property, one, reason⟩ : Miss)] else []).map
          Miss.untyped =
        (if setting.diagnostics then [(⟨id, property, two, reason⟩ : Miss)] else []).map
          Miss.untyped := by
      cases setting.diagnostics <;> rfl
    have reported :=
      (pairs.report missed).log [reason.notice setting.plan.nodeId property handle]
    exact (reported.produce id .success (.success false)).record (.bound id property false)

/-- The way from a step is the same for both. -/
theorem next (pairs : Paired paired first second) (setting : RunSetting) (id : StepId) :
    SameEnd (fun one two => Paired paired one.1 two.1 ∧ one.2 = two.2) (first.next setting id)
      (second.next setting id) := by
  -- The guards go by a handle that both have been given.
  have valid : first.handleValid? id = second.handleValid? id := by
    simp only [handleValid?, product?, pairs.produced]
  unfold Machine.next
  simp only [valid]
  cases (setting.plan.successors id).find? fun edge =>
      allows (second.handleValid? id) edge.guard with
  | none => exact .error _
  | some edge =>
    by_cases invalid : edge.guard = .ifInvalid
    · simp only [invalid, if_true]
      exact .ok ⟨pairs.record _, rfl⟩
    · simp only [invalid, if_false]
      exact .ok ⟨pairs, rfl⟩

end Paired

end Machine

variable [Bindable α] [Bindable β]

/-- Paired objects answer offers alike and stay paired. -/
def Bindable.KeepsPairs (paired : α → β → Prop) : Prop :=
  ∀ first second, paired first second → ∀ (name : String) (value : Value) (type : ValueType),
    (tryBind first name value type).2 = (tryBind second name value type).2 ∧
      paired (tryBind first name value type).1 (tryBind second name value type).1

/-- What an object comes to when things are offered to it in turn, and its answers. -/
def Bindable.offerAll (target : α) : List Offer → α × List (Except BindFault Unit)
  | [] => (target, [])
  | offer :: rest =>
    let (changed, answer) := tryBind target offer.name offer.value offer.type
    let (last, answers) := offerAll changed rest
    (last, answer :: answers)

/-- Paired objects answer alike whatever is offered to them in turn, and are paired after it. -/
theorem Bindable.KeepsPairs.offerAll (keeps : Bindable.KeepsPairs paired) {first : α} {second : β}
    (pair : paired first second) (offers : List Offer) :
    (Bindable.offerAll first offers).2 = (Bindable.offerAll second offers).2 ∧
      paired (Bindable.offerAll first offers).1 (Bindable.offerAll second offers).1 := by
  -- The objects are still a pair after the first offer, so the rest is answered alike too.
  induction offers generalizing first second with
  | nil => exact ⟨rfl, pair⟩
  | cons offer rest ih =>
    obtain ⟨answer, still⟩ := keeps first second pair offer.name offer.value offer.type
    obtain ⟨answers, last⟩ := ih still
    exact ⟨congrArg₂ List.cons answer answers, last⟩

/-- An offer that comes last is made to what the others have led to. -/
theorem Bindable.offerAll_concat (target : α) (offers : List Offer) (offer : Offer) :
    (offerAll target (offers ++ [offer])).1 =
      (tryBind (offerAll target offers).1 offer.name offer.value offer.type).1 := by
  -- The first offer is the same on both sides, and the rest begins with what it has left.
  induction offers generalizing target with
  | nil => rfl
  | cons early rest ih => exact ih (tryBind target early.name early.value early.type).1

/-- What two paired objects have come to by the same offers. -/
def Bindable.Offered (paired : α → β → Prop) (first : α) (second : β) : Prop :=
  ∃ start other offers, paired start other ∧
    (offerAll start offers).1 = first ∧ (offerAll other offers).1 = second

/-- Paired objects have come to what they are by no offers at all. -/
theorem Bindable.Offered.of_paired {first : α} {second : β} (pair : paired first second) :
    Bindable.Offered paired first second :=
  ⟨first, second, [], pair, rfl, rfl⟩

/-- Objects that have come from pairs by the same offers answer the next offer alike, and have come
from these pairs after it too. -/
theorem Bindable.KeepsPairs.offered (keeps : Bindable.KeepsPairs paired)
    {origin : α → β → Prop} (within : ∀ first second, origin first second → paired first second) :
    Bindable.KeepsPairs (Bindable.Offered origin) := by
  intro first second come name value type
  obtain ⟨start, other, offers, pair, rfl, rfl⟩ := come
  obtain ⟨_, still⟩ := keeps.offerAll (within _ _ pair) offers
  refine ⟨(keeps _ _ still name value type).1, start, other, offers ++ [⟨name, value, type⟩], pair,
    ?_, ?_⟩
  · exact offerAll_concat start offers ⟨name, value, type⟩
  · exact offerAll_concat other offers ⟨name, value, type⟩

/-- A property is set alike on the objects of a handle, but for what their types are called. -/
theorem Manager.Paired.bindProperty (keeps : Bindable.KeepsPairs paired) {first : Manager α}
    {second : Manager β} (pairs : Manager.Paired paired first second) (handle : Handle)
    (property : String) (value : Value) (type : ValueType) :
    Manager.Paired paired (Machine.bindProperty first handle property value type).1
        (Machine.bindProperty second handle property value type).1 ∧
      (Machine.bindProperty first handle property value type).2.2 =
        (Machine.bindProperty second handle property value type).2.2 := by
  have held := pairs.object? handle
  unfold Machine.bindProperty
  generalize first.object? handle = one, second.object? handle = two at held
  cases held with
  | none =>
    -- There is no object under the handle in either.
    exact ⟨pairs, rfl⟩
  | some object =>
    obtain ⟨outcome, still⟩ := keeps _ _ object property value type
    exact ⟨pairs.setObject handle still, congrArg (Except.mapError MissCause.binding) outcome⟩

namespace Machine.Paired

variable {first : Machine α} {second : Machine β}

/-- A step is carried out alike by both. -/
theorem execute (keeps : Bindable.KeepsPairs paired) (pairs : Paired paired first second)
    (setting : RunSetting) (step : Step) :
    SameEnd (Paired paired) (first.execute setting step) (second.execute setting step) := by
  unfold Machine.execute
  -- The inputs are the same for both, so both fail at the same one or at none.
  cases step.call with
  | locate =>
    simp only [pairs.typed setting step]
    refine .bind fun context => .ok ?_
    have located := pairs.handOn (pairs.manager.locate context)
    exact (located.produce step.id .manager _).record _
  | createOrShow =>
    simp only [pairs.typed setting step, pairs.managerInput step]
    refine .bind fun self => .bind fun path => .bind fun itemId => .bind fun priority =>
      .bind fun context => .ok ?_
    -- Both managers have the item, or can make it, or neither does; and both log the same.
    obtain ⟨managers, answer⟩ := pairs.manager.createOrShow self ⟨path, itemId, priority, context⟩
    have asked := (pairs.handOn managers).log
      (first.manager.showNotices self ⟨path, itemId, priority, context⟩)
    rw [← answer, ← pairs.manager.showNotices]
    exact (asked.produce step.id .handle _).record _
  | setProperty property type =>
    simp only [pairs.typed setting step]
    refine .bind fun target => .bind fun data => .ok ?_
    -- Both objects take the value or refuse it for the same reason.
    obtain ⟨managers, outcome⟩ :=
      pairs.manager.bindProperty keeps target property (.ofCarrier type data) type
    have bound := pairs.handOn managers
    rw [← outcome]
    exact bound.finishProperty setting step.id target property _ _ _

/-- From any step on, both go the same way and end in the same way. -/
theorem follow (keeps : Bindable.KeepsPairs paired) (pairs : Paired paired first second)
    (setting : RunSetting) (turns : Nat) (cursor : StepId) :
    Paired paired (follow setting turns first cursor).1 (follow setting turns second cursor).1 ∧
      (follow setting turns first cursor).2 = (follow setting turns second cursor).2 := by
  -- Both are paired before each turn, and so they take the same turns.
  induction turns generalizing first second cursor with
  | zero => exact ⟨pairs, rfl⟩
  | succ turns ih =>
    unfold Machine.follow
    cases setting.plan.step? cursor with
    | none => exact ⟨pairs, rfl⟩
    | some step =>
      simp only
      have carried := pairs.execute keeps setting step
      generalize first.execute setting step = one, second.execute setting step = two at carried ⊢
      cases carried with
      | error fault =>
        -- The step fails for both, and leaves both as they were.
        exact ⟨pairs, rfl⟩
      | @ok one two executed =>
        simp only
        have led := executed.next setting step.id
        generalize one.next setting step.id = onward, two.next setting step.id = ahead at led ⊢
        cases led with
        | error fault => exact ⟨executed, rfl⟩
        | @ok onward ahead moved =>
          -- Both have come to one goal, and go on from there with a turn less.
          obtain ⟨one, goal⟩ := onward
          obtain ⟨two, same⟩ := ahead
          obtain ⟨moved, same⟩ := moved
          dsimp only at moved same
          subst same
          cases goal with
          | exit => exact ⟨moved, rfl⟩
          | step id => exact ih moved id

end Machine.Paired

/-- Runs with paired managers come out alike, whatever the plan: with the same output, trace and
missed properties, but for what the types of objects are called, or with the same fault. They leave
the managers paired, and log the same. -/
theorem RunSetting.paired_run (keeps : Bindable.KeepsPairs paired) {first : Manager α}
    {second : Manager β} (pairs : Manager.Paired paired first second) (setting : RunSetting) :
    (setting.run first).result.map RunReport.untyped =
        (setting.run second).result.map RunReport.untyped ∧
      Manager.Paired paired (setting.run first).manager (setting.run second).manager ∧
      (setting.run first).notices = (setting.run second).notices := by
  have starts : Machine.Paired paired (.start first) (.start second) := ⟨pairs, rfl, rfl, rfl, rfl⟩
  have looped : Machine.Paired paired (setting.loop first).1 (setting.loop second).1 ∧
      (setting.loop first).2 = (setting.loop second).2 := by
    unfold loop
    cases setting.plan.entry? with
    | none => exact ⟨starts, rfl⟩
    | some entry => exact starts.follow keeps setting setting.plan.steps.length entry
  rw [run_eq_finish_loop, run_eq_finish_loop]
  obtain ⟨ended, same⟩ := looped
  refine ⟨?_, ended.manager, ended.notices⟩
  -- The report is made up of what both machines have been through.
  have output : (setting.loop first).1.output setting.plan.output =
      (setting.loop second).1.output setting.plan.output := by
    unfold Machine.output Machine.product?
    rw [ended.produced]
  simp only [Machine.finish, same, output]
  cases (setting.loop second).2 with
  | error fault => rfl
  | ok =>
    cases (setting.loop second).1.output setting.plan.output with
    | error fault => rfl
    | ok handle =>
      simp only [Except.map, bind, Except.bind, pure, Except.pure, RunReport.untyped, ended.trace,
        ended.unresolved]

end CallChain

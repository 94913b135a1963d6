import CallChain.Run.Chain

/-! Managers in use: what can be done with a manager, in any order, and what it answers. -/

namespace CallChain

/-- One use of a manager of objects. -/
inductive ManagerUse (α : Type) where
  /-- A new object of an item will be like this one. -/
  | register (key : ItemKey) (object : α)
  /-- A new object of an item will be a bag of this shape. -/
  | registerShape (key : ItemKey) (shape : TypeShape)
  | locate (context : Handle)
  | createOrShow (self : ManagerHandle) (request : ItemRequest)
  /-- A value is offered for a property of the object of a handle. -/
  | bind (handle : Handle) (property : String) (value : Value) (type : ValueType)

/-- The item that an entry of a catalog is about. -/
def CatalogItem.key (entry : CatalogItem) : ItemKey :=
  ⟨entry.path, entry.itemId⟩

namespace ManagerUse

variable {α : Type}

/-- What the new objects of an item are going to be like, if this use is about that. -/
def newObject? (ofBag : Bag → α) (key : ItemKey) : ManagerUse α → Option α
  | register item object => if item = key then some object else none
  | registerShape item shape => if item = key then some (ofBag (.ofShape shape)) else none
  | _ => none

/-- The request that is made, whether the manager takes it for its own or not. -/
def request? : ManagerUse α → Option ItemRequest
  | createOrShow _ request => some request
  | _ => none

/-- The priority that an item of a key is shown with; only a request to the manager that was
located shows anything. -/
def priorityFor? (key : ItemKey) : ManagerUse α → Option Int64
  | createOrShow self request =>
    if self = Manager.ownHandle ∧ request.key = key then some request.priority else none
  | _ => none

/-- What becomes of the object of a handle. -/
def onObject [Bindable α] (handle : Handle) (object : α) : ManagerUse α → α
  | bind target property value type =>
    if target = handle then (Bindable.tryBind object property value type).1 else object
  | _ => object

end ManagerUse

namespace Manager

variable {α : Type}

/-- What a new object of an item is like, if it can be made: as the last registration for the item
has it, and without any, as the last entry of the catalog for the item has it. -/
def newObject? (ofBag : Bag → α) (catalog : List CatalogItem) (uses : List (ManagerUse α))
    (key : ItemKey) : Option α :=
  let registered := uses.filterMap (ManagerUse.newObject? ofBag key)
  let listed := catalog.filter fun entry => entry.key = key
  registered.getLast?.or (listed.getLast?.map fun entry => ofBag (.ofShape entry.shape))

/-- The priority of the last request that showed the item of a key, if there was one. -/
def lastPriority? (key : ItemKey) (uses : List (ManagerUse α)) : Option Int64 :=
  (uses.filterMap (ManagerUse.priorityFor? key)).getLast?

variable [Bindable α]

/-- The manager after one use; `ofBag` makes an object of a bag. -/
def perform (ofBag : Bag → α) (manager : Manager α) : ManagerUse α → Manager α
  | .register key object => manager.register key object
  | .registerShape key shape => manager.register key (ofBag (.ofShape shape))
  | .locate context => (manager.locate context).1
  | .createOrShow self request => (manager.createOrShow self request).1
  | .bind handle property value type =>
    (Machine.bindProperty manager handle property value type).1

/-- The manager after a sequence of uses. -/
def after (ofBag : Bag → α) (manager : Manager α) (uses : List (ManagerUse α)) : Manager α :=
  uses.foldl (perform ofBag) manager

/-- A manager for a catalog after a sequence of uses. -/
def reached (ofBag : Bag → α) (catalog : List CatalogItem) (uses : List (ManagerUse α)) :
    Manager α :=
  (ofCatalog ofBag catalog).after ofBag uses

/-- Among the uses of a manager there is a request for the item of a key, made to the manager that
was located, and this handle is the answer to it. -/
def Answered (ofBag : Bag → α) (manager : Manager α) (uses : List (ManagerUse α)) (key : ItemKey)
    (handle : Handle) : Prop :=
  ∃ before request later, uses = before ++ .createOrShow ownHandle request :: later ∧
    request.key = key ∧ ((manager.after ofBag before).createOrShow ownHandle request).2 = handle

end Manager

end CallChain

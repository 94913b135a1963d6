import CallChain.Binding.Bag
import CallChain.Json.Parse

/-! The manager: a store with at most one object for each item. -/

namespace CallChain

/-- The number of a manager as it is handed out. -/
structure ManagerHandle where
  raw : UInt64
deriving DecidableEq, Repr, Inhabited

/-- What identifies an item: where it lives and which one it is there. -/
structure ItemKey where
  path : String
  itemId : String
deriving DecidableEq, Repr

/-- What is asked of a manager. -/
structure ItemRequest where
  path : String
  itemId : String
  priority : Int64
  context : Handle
deriving DecidableEq, Repr

namespace ItemRequest

/-- The item that is asked for. -/
def key (request : ItemRequest) : ItemKey :=
  ⟨request.path, request.itemId⟩

end ItemRequest

/-- An item that exists, with the priority of the last request for it. -/
structure LiveItem (α : Type) where
  key : ItemKey
  priority : Int64
  object : α
deriving Repr

/-- A store of objects by item. An object is made on the first request for its item. -/
structure Manager (α : Type) where
  /-- New objects for the items that can be made; the first for an item counts. -/
  factories : List (ItemKey × α)
  /-- The items made so far; a handle is a position in this list, counted from one. -/
  items : List (LiveItem α)
  /-- How often the manager was looked for. -/
  locates : Nat
  /-- Every request, in order. -/
  requests : List ItemRequest

namespace Manager

variable {α : Type}

/-- A manager that can make nothing. -/
def empty : Manager α := ⟨[], [], 0, []⟩

/-- The handle by which the manager knows itself. -/
def ownHandle : ManagerHandle := ⟨1⟩

/-- Tells the manager what a new object of an item is like. -/
def register (manager : Manager α) (key : ItemKey) (object : α) : Manager α :=
  { manager with factories := (key, object) :: manager.factories }

/-- A new object of an item, if the item can be made. -/
def factory? (manager : Manager α) (key : ItemKey) : Option α :=
  (manager.factories.find? fun factory => factory.1 == key).map Prod.snd

/-- The position of the item of a key among those that exist. -/
def position? (manager : Manager α) (key : ItemKey) : Option Nat :=
  manager.items.findIdx? fun item => item.key == key

/-- The handle for a position. -/
def handleFor (position : Nat) : Handle :=
  ⟨some (UInt64.ofNat (position + 1))⟩

/-- The position a handle stands for. -/
def positionOf? (handle : Handle) : Option Nat :=
  match handle.raw with
  | none => none
  | some raw => if raw.toNat = 0 then none else some (raw.toNat - 1)

/-- The item of a handle. -/
def item? (manager : Manager α) (handle : Handle) : Option (LiveItem α) :=
  (positionOf? handle).bind fun position => manager.items[position]?

/-- The object of a handle. -/
def object? (manager : Manager α) (handle : Handle) : Option α :=
  (manager.item? handle).map LiveItem.object

/-- The priority of the last request that showed the item of a handle. -/
def priority? (manager : Manager α) (handle : Handle) : Option Int64 :=
  (manager.item? handle).map LiveItem.priority

/-- How many items exist. -/
def live (manager : Manager α) : Nat :=
  manager.items.length

/-- Puts an object in place of that of a handle. -/
def setObject (manager : Manager α) (handle : Handle) (object : α) : Manager α :=
  match positionOf? handle with
  | none => manager
  | some position =>
    { manager with items := manager.items.modify position fun item => { item with object } }

/-- Looks for the manager, which is found in every context. -/
def locate (manager : Manager α) (_context : Handle) : Manager α × ManagerHandle :=
  ({ manager with locates := manager.locates + 1 }, ownHandle)

/-- Shows the item that is asked for, making it if it does not exist and can be made. -/
def createOrShow (manager : Manager α) (handle : ManagerHandle) (request : ItemRequest) :
    Manager α × Handle :=
  let asked := { manager with requests := manager.requests ++ [request] }
  if handle ≠ ownHandle then (asked, .invalid)
  else
    match manager.position? request.key with
    | some position =>
      let shown := manager.items.modify position fun item =>
        { item with priority := request.priority }
      ({ asked with items := shown }, handleFor position)
    | none =>
      match manager.factory? request.key with
      | none => (asked, .invalid)
      | some object =>
        let item : LiveItem α := ⟨request.key, request.priority, object⟩
        ({ asked with items := manager.items ++ [item] }, handleFor manager.items.length)

/-- The log records of a request; making an object is not recorded. -/
def showNotices (manager : Manager α) (handle : ManagerHandle) (request : ItemRequest) :
    List Notice :=
  if handle ≠ ownHandle then []
  else if (manager.position? request.key).isSome then
    [⟨.debug, s!"Showing existing {request.path}/{request.itemId}"⟩]
  else if (manager.factory? request.key).isNone then
    [⟨.debug, s!"No factory registered for {request.path}/{request.itemId}"⟩]
  else []

end Manager

/-- An item of a catalog: where it lives and what its objects are like. -/
structure CatalogItem where
  path : String
  itemId : String
  shape : TypeShape
deriving DecidableEq, Repr

namespace CatalogItem

/-- Reads an item of a catalog. -/
def ofJson : Json.Decoder CatalogItem := fun json => do
  let found ← Json.record (["path", "item_id", "type"].map Json.Field.plain) json
  let path ← found.required "path" Json.text
  let itemId ← found.required "item_id" Json.text
  let shape ← found.required "type" TypeShape.ofJson
  return ⟨path, itemId, shape⟩

end CatalogItem

namespace Manager

/-- A manager that can make an object for every item of a catalog. -/
def ofCatalog {α : Type} (ofBag : Bag → α) (catalog : List CatalogItem) : Manager α :=
  catalog.foldl (fun manager entry =>
    manager.register ⟨entry.path, entry.itemId⟩ (ofBag (.ofShape entry.shape))) .empty

/-- A manager for the catalog of a JSON text. -/
def ofCatalogText {α : Type} (ofBag : Bag → α) (text : String) :
    Except Json.Fault (Manager α) :=
  (Json.parse (Json.list CatalogItem.ofJson) text).map (ofCatalog ofBag)

end Manager

end CallChain

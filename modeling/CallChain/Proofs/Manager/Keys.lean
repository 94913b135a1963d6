import CallChain.Proofs.Manager.Items

/-! A manager as seen through one key: what is done with one item is nothing to the others, and
depends on no other item. -/

namespace CallChain

namespace Manager

variable {α : Type} {manager : Manager α} {key other : ItemKey}

/-- The item of a key, if it exists. -/
def itemOf? (manager : Manager α) (key : ItemKey) : Option (LiveItem α) :=
  manager.items.find? fun item => item.key == key

/-- The handle stands for the item of a key, which exists. -/
def Refers (manager : Manager α) (handle : Handle) (key : ItemKey) : Prop :=
  ∃ position, positionOf? handle = some position ∧ manager.position? key = some position

/-- Two managers hold the same item under a key, or can make the same object for it. -/
structure AgreeOn (key : ItemKey) (first second : Manager α) : Prop where
  item : first.itemOf? key = second.itemOf? key
  factory : first.factory? key = second.factory? key

/-- All that a manager holds under other keys, and can make, is as it was. -/
structure Keeps (key : ItemKey) (before after : Manager α) : Prop where
  items : ∀ other, key ≠ other → after.itemOf? other = before.itemOf? other
  factories : after.factories = before.factories

namespace Keeps

/-- A manager that is not touched keeps everything. -/
theorem refl (key : ItemKey) (manager : Manager α) : Keeps key manager manager :=
  ⟨fun _ _ => rfl, rfl⟩

/-- What two steps keep one after the other, they keep together. -/
theorem trans {first second third : Manager α} (one : Keeps key first second)
    (two : Keeps key second third) : Keeps key first third where
  items other apart := (two.items other apart).trans (one.items other apart)
  factories := two.factories.trans one.factories

/-- What can be made stays the same. -/
theorem factory?_eq {before after : Manager α} (keeps : Keeps key before after)
    (other : ItemKey) : after.factory? other = before.factory? other := by
  rw [factory?, factory?, keeps.factories]

end Keeps

/-- The item of a key is the one at the position of the key. -/
theorem itemOf?_eq_bind :
    manager.itemOf? key =
      (manager.position? key).bind fun position => manager.items[position]? := by
  unfold itemOf? position?
  -- Both look for the first item with the key.
  induction manager.items with
  | nil => rfl
  | cons first rest ih =>
    rw [List.find?_cons, List.findIdx?_cons]
    cases own : first.key == key with
    | true => rfl
    | false =>
      simp only [Bool.false_eq_true, if_false, ih, Option.bind_map]
      rfl

/-- A key has a position just if it has an item. -/
theorem isSome_position? : (manager.position? key).isSome = (manager.itemOf? key).isSome := by
  rw [itemOf?_eq_bind]
  cases found : manager.position? key with
  | none => rfl
  | some position =>
    obtain ⟨item, placed, _⟩ := exists_item_of_position? found
    simp [placed]

section Modify

variable {position : Nat} {change : LiveItem α → LiveItem α}

/-- Changing an item but for its key moves no key to another position. -/
theorem position?_modify (named : ∀ item, (change item).key = item.key) (other : ItemKey) :
    { manager with items := manager.items.modify position change }.position? other =
      manager.position? other := by
  unfold position?
  -- The change stands further on in the rest of the items, at one position less.
  induction manager.items generalizing position with
  | nil => cases position <;> rfl
  | cons first rest ih =>
    cases position with
    | zero => simp [List.findIdx?_cons, named]
    | succ position => simp only [List.modify_succ_cons, List.findIdx?_cons, ih]

/-- Changing the item of a key, but for the key, changes what is held under that key only. -/
theorem itemOf?_modify (placed : manager.position? key = some position)
    (named : ∀ item, (change item).key = item.key) (other : ItemKey) :
    { manager with items := manager.items.modify position change }.itemOf? other =
      if key = other then (manager.itemOf? other).map change else manager.itemOf? other := by
  rw [itemOf?_eq_bind, itemOf?_eq_bind, position?_modify named]
  by_cases same : key = other
  · subst same
    simp [placed, List.getElem?_modify]
  · cases there : manager.position? other with
    | none => simp [same]
    | some place =>
      -- Items with different keys stand at different positions.
      have apart : position ≠ place := by
        intro equal
        subst equal
        obtain ⟨item, here, own⟩ := exists_item_of_position? placed
        obtain ⟨twin, again, its⟩ := exists_item_of_position? there
        obtain rfl := Option.some.inj (here.symm.trans again)
        exact same (own.symm.trans its)
      simp [same, apart, List.getElem?_modify]

end Modify

/-- An item made last is found under its key, unless there was one before. -/
theorem itemOf?_append (item : LiveItem α) (other : ItemKey) :
    { manager with items := manager.items ++ [item] }.itemOf? other =
      (manager.itemOf? other).or (if item.key = other then some item else none) := by
  rw [itemOf?, List.find?_append, itemOf?]
  by_cases same : item.key = other
  · simp [same]
  · have differs : (item.key == other) = false := beq_eq_false_iff_ne.mpr same
    simp [same, differs]

/-- The position of a key that had no item is that of the item made for it. -/
theorem position?_append (item : LiveItem α) (missing : manager.position? item.key = none) :
    { manager with items := manager.items ++ [item] }.position? item.key =
      some manager.items.length := by
  unfold position? at missing ⊢
  rw [List.findIdx?_append, missing]
  simp

/-- The item of a key after it was asked for: it is shown with the priority of the request, or
made if it can be. -/
def asked? (manager : Manager α) (request : ItemRequest) : Option (LiveItem α) :=
  match manager.itemOf? request.key with
  | some item => some { item with priority := request.priority }
  | none => (manager.factory? request.key).map fun object =>
      ⟨request.key, request.priority, object⟩

/-- What a request to the manager that was located comes to. -/
structure Shows (manager : Manager α) (request : ItemRequest) (after : Manager α)
    (handle : Handle) : Prop where
  keeps : Keeps request.key manager after
  item : after.itemOf? request.key = manager.asked? request
  requests : after.requests = manager.requests ++ [request]
  live : after.live ≤ manager.live + 1
  valid : handle.isValid = (manager.asked? request).isSome
  /-- A valid handle stands for the item, as long as there is a number for it. -/
  refers : handle.isValid = true → manager.live + 1 < UInt64.size →
    after.Refers handle request.key

/-- A request leaves the items of other keys alone, and is answered for its own item. -/
theorem shows_createOrShow (manager : Manager α) (request : ItemRequest) :
    manager.Shows request (manager.createOrShow ownHandle request).1
      (manager.createOrShow ownHandle request).2 := by
  have known : (manager.position? request.key).isSome = (manager.itemOf? request.key).isSome :=
    isSome_position?
  unfold createOrShow
  simp only [ne_eq, not_true_eq_false, if_false]
  cases placed : manager.position? request.key with
  | some position =>
    -- The item is there, and only its priority changes.
    rw [placed, Option.isSome_some, eq_comm, Option.isSome_iff_exists] at known
    obtain ⟨item, held⟩ := known
    have asked : manager.asked? request = some { item with priority := request.priority } := by
      rw [asked?, held]
    have named : ∀ item : LiveItem α, { item with priority := request.priority }.key = item.key :=
      fun _ => rfl
    have bound : position < manager.live := (List.findIdx?_eq_some_iff_getElem.mp placed).1
    exact {
      keeps := ⟨fun other apart => (itemOf?_modify placed named other).trans (if_neg apart), rfl⟩
      item := by
        rw [asked]
        exact (itemOf?_modify placed named request.key).trans (by rw [if_pos rfl, held]; rfl)
      requests := rfl
      live := by simp [live]
      valid := by rw [asked]; rfl
      refers := fun _ room => ⟨position, positionOf?_handleFor (by omega),
        (position?_modify named request.key).trans placed⟩ }
  | none =>
    rw [placed, Option.isSome_none, eq_comm, Option.isSome_eq_false_iff, Option.isNone_iff_eq_none]
      at known
    cases made : manager.factory? request.key with
    | none =>
      -- The item cannot be made either, so the request is only recorded.
      have asked : manager.asked? request = none := by
        rw [asked?, known, made]
        rfl
      exact {
        keeps := ⟨fun _ _ => rfl, rfl⟩
        item := known.trans asked.symm
        requests := rfl
        live := Nat.le_succ _
        valid := by rw [asked]; rfl
        refers := fun valid => by cases valid }
    | some object =>
      have asked : manager.asked? request = some ⟨request.key, request.priority, object⟩ := by
        rw [asked?, known, made]
        rfl
      exact {
        keeps := ⟨fun other apart => (itemOf?_append _ other).trans (by simp [apart]), rfl⟩
        item := (itemOf?_append _ request.key).trans (by simp [known, asked])
        requests := rfl
        live := by simp [live]
        valid := by rw [asked]; rfl
        refers := fun _ room => ⟨manager.items.length, positionOf?_handleFor room,
          position?_append ⟨request.key, request.priority, object⟩ placed⟩ }

/-- A handle that refers to a key gives the item of the key. -/
theorem Refers.item?_eq {handle : Handle} (refers : manager.Refers handle key) :
    manager.item? handle = manager.itemOf? key := by
  -- Both lead to the item at the position of the key.
  obtain ⟨position, stands, placed⟩ := refers
  rw [item?, stands, itemOf?_eq_bind, placed]

/-- A handle that refers to a key gives some item. -/
theorem Refers.exists_item {handle : Handle} (refers : manager.Refers handle key) :
    ∃ item, manager.itemOf? key = some item := by
  obtain ⟨position, _, placed⟩ := refers
  rw [← Option.isSome_iff_exists, ← isSome_position?, placed]
  rfl

/-- What an offer to the object of a key comes to. -/
structure Offers (manager : Manager α) (handle : Handle) (key : ItemKey) (after : Manager α)
    (item : LiveItem α) : Prop where
  keeps : Keeps key manager after
  item : after.itemOf? key = some item
  requests : after.requests = manager.requests
  live : after.live = manager.live
  refers : after.Refers handle key

/-- An offer to the object that a handle refers to leaves the items of other keys alone, and its
outcome depends on that object only. -/
theorem offers_bindProperty [Bindable α] {handle : Handle} (refers : manager.Refers handle key)
    {item : LiveItem α} (held : manager.itemOf? key = some item) (property : String)
    (value : Value) (type : ValueType) :
    let offered := Bindable.tryBind item.object property value type
    manager.Offers handle key (Machine.bindProperty manager handle property value type).1
        { item with object := offered.1 } ∧
      (Machine.bindProperty manager handle property value type).2 =
        (some (Bindable.typeName item.object), offered.2.mapError .binding) := by
  have given : manager.object? handle = some item.object := by
    rw [object?, refers.item?_eq, held]
    rfl
  obtain ⟨position, stands, placed⟩ := refers
  simp only [Machine.bindProperty, given, setObject, stands, and_true]
  -- Only the object at the position of the key is put in place of another.
  have named : ∀ other : LiveItem α, { other with
      object := (Bindable.tryBind item.object property value type).1 }.key = other.key :=
    fun _ => rfl
  exact {
    keeps := ⟨fun other apart => (itemOf?_modify placed named other).trans (if_neg apart), rfl⟩
    item := (itemOf?_modify placed named key).trans (by rw [if_pos rfl, held]; rfl)
    requests := rfl
    live := by simp [live]
    refers := ⟨position, stands, (position?_modify named key).trans placed⟩ }

/-- Whether the item of a key exists or can be made. -/
def provides (manager : Manager α) (key : ItemKey) : Bool :=
  (manager.position? key).isSome || (manager.factory? key).isSome

/-- A request to the manager that was located gives a valid handle just if its item can be had. -/
theorem isValid_createOrShow (manager : Manager α) (request : ItemRequest) :
    (manager.createOrShow ownHandle request).2.isValid = manager.provides request.key := by
  rw [(shows_createOrShow manager request).valid, provides, isSome_position?, asked?]
  cases manager.itemOf? request.key <;> simp

/-- A request changes nothing about which items can be had: one that is made could be made. -/
theorem provides_createOrShow (manager : Manager α) (self : ManagerHandle) (request : ItemRequest)
    (key : ItemKey) :
    (manager.createOrShow self request).1.provides key = manager.provides key := by
  by_cases own : self = ownHandle
  · subst own
    have shows := shows_createOrShow manager request
    rw [provides, provides, isSome_position?, isSome_position?, shows.keeps.factory?_eq]
    by_cases same : request.key = key
    · subst same
      -- The item is there now if it was there before or could be made.
      rw [shows.item, asked?]
      cases manager.itemOf? request.key <;> cases manager.factory? request.key <;> rfl
    · rw [shows.keeps.items key same]
  · -- Another manager is asked, so this one only records the request.
    rw [createOrShow, if_pos own]
    rfl

/-- An offer to an object changes nothing about which items can be had. -/
theorem provides_bindProperty [Bindable α] (manager : Manager α) (handle : Handle)
    (property : String) (value : Value) (type : ValueType) (key : ItemKey) :
    (Machine.bindProperty manager handle property value type).1.provides key =
      manager.provides key := by
  unfold Machine.bindProperty
  cases manager.object? handle with
  | none => rfl
  | some object =>
    unfold setObject
    cases positionOf? handle with
    | none => rfl
    | some position =>
      -- The item that has a new object has its old key.
      have named : ∀ item : LiveItem α,
          { item with object := (Bindable.tryBind object property value type).1 }.key = item.key :=
        fun _ => rfl
      simp only [provides, position?_modify named, factory?]

end Manager

end CallChain

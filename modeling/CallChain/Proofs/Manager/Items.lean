import CallChain.Manager.History

/-! The items of a manager: the handles that stand for them, and what one use does to them. -/

namespace CallChain

namespace Manager

variable {α : Type} {manager : Manager α}

/-- A handle stands for a position when its number is the next greater one. -/
theorem positionOf?_eq_some_iff {handle : Handle} {position : Nat} :
    positionOf? handle = some position ↔
      ∃ raw, handle.raw = some raw ∧ raw.toNat = position + 1 := by
  unfold positionOf?
  -- The number zero stands for nothing; every other is one more than its position.
  cases number : handle.raw with
  | none => simp
  | some raw =>
    by_cases zero : raw.toNat = 0
    · simp [zero]
    · simp only [zero, if_false, Option.some.injEq, exists_eq_left']
      omega

/-- Two handles for one position are the same. -/
theorem positionOf?_inj {first second : Handle} {position : Nat}
    (one : positionOf? first = some position) (two : positionOf? second = some position) :
    first = second := by
  obtain ⟨raw, number, own⟩ := positionOf?_eq_some_iff.mp one
  obtain ⟨other, numeral, same⟩ := positionOf?_eq_some_iff.mp two
  obtain rfl : raw = other := UInt64.toNat_inj.mp (own.trans same.symm)
  obtain ⟨_⟩ := first
  obtain ⟨_⟩ := second
  simp only at number numeral
  rw [number, numeral]

/-- The handle for a position stands for it, as long as there is a number for it. -/
theorem positionOf?_handleFor {position : Nat} (room : position + 1 < UInt64.size) :
    positionOf? (handleFor position) = some position :=
  positionOf?_eq_some_iff.mpr ⟨_, rfl, UInt64.toNat_ofNat_of_lt room⟩

/-- The handle for a position is the only one that stands for it. -/
theorem eq_handleFor_iff {handle : Handle} {position : Nat}
    (room : position + 1 < UInt64.size) :
    handle = handleFor position ↔ positionOf? handle = some position := by
  constructor
  · rintro rfl
    exact positionOf?_handleFor room
  · exact fun stands => positionOf?_inj stands (positionOf?_handleFor room)

/-- An item that a handle gives is the one at the position of the handle. -/
theorem item?_eq_some_iff {handle : Handle} {item : LiveItem α} :
    manager.item? handle = some item ↔
      ∃ position, positionOf? handle = some position ∧ manager.items[position]? = some item :=
  Option.bind_eq_some_iff

/-- Handles give an item exactly when their number is one of those of the items. -/
theorem item?_isSome_iff {handle : Handle} :
    (manager.item? handle).isSome ↔
      ∃ raw, handle.raw = some raw ∧ 1 ≤ raw.toNat ∧ raw.toNat ≤ manager.live := by
  simp only [Option.isSome_iff_exists, item?_eq_some_iff, positionOf?_eq_some_iff, live]
  constructor
  · rintro ⟨item, position, ⟨raw, number, own⟩, placed⟩
    have bound := (List.getElem?_eq_some_iff.mp placed).1
    exact ⟨raw, number, by omega, by omega⟩
  · rintro ⟨raw, number, above, below⟩
    -- The item is one position before the number, for the numbers begin with one.
    have bound : raw.toNat - 1 < manager.items.length := by omega
    exact ⟨_, raw.toNat - 1, ⟨raw, number, by omega⟩, List.getElem?_eq_getElem bound⟩

/-- No two items have the same key. -/
theorem position_eq_of_key (distinct : (manager.items.map LiveItem.key).Nodup)
    {first second : Nat} {one two : LiveItem α} (early : manager.items[first]? = some one)
    (late : manager.items[second]? = some two) (same : one.key = two.key) : first = second := by
  have bound := (List.getElem?_eq_some_iff.mp early).1
  refine (List.getElem?_inj (by simpa using bound) distinct).mp ?_
  simp [early, late, same]

/-- The position of a key is that of an item with the key. -/
theorem exists_item_of_position? {key : ItemKey} {position : Nat}
    (found : manager.position? key = some position) :
    ∃ item, manager.items[position]? = some item ∧ item.key = key := by
  obtain ⟨bound, own, _⟩ := List.findIdx?_eq_some_iff_getElem.mp found
  exact ⟨_, List.getElem?_eq_getElem bound, eq_of_beq own⟩

/-- A key without a position has no item. -/
theorem ne_key_of_position? {key : ItemKey} (missing : manager.position? key = none) :
    ∀ item ∈ manager.items, item.key ≠ key := by
  simpa [position?, List.findIdx?_eq_none_iff] using missing

end Manager

namespace LiveItem

variable {α : Type} [Bindable α]

/-- The item of a handle after a use of its manager. -/
def afterUse (handle : Handle) (item : LiveItem α) (use : ManagerUse α) : LiveItem α :=
  ⟨item.key, (use.priorityFor? item.key).getD item.priority, use.onObject handle item.object⟩

/-- Whatever is done with a manager, its items keep their keys. -/
@[simp] theorem afterUse_key (handle : Handle) (item : LiveItem α) (use : ManagerUse α) :
    (item.afterUse handle use).key = item.key :=
  rfl

/-- The object of an item is changed by what is bound to its handle only. -/
@[simp] theorem afterUse_object (handle : Handle) (item : LiveItem α) (use : ManagerUse α) :
    (item.afterUse handle use).object = use.onObject handle item.object :=
  rfl

/-- A request to the manager that was located shows the item with its key. -/
theorem afterUse_createOrShow (handle : Handle) (item : LiveItem α) (self : ManagerHandle)
    (request : ItemRequest) : item.afterUse handle (.createOrShow self request) =
      if self = Manager.ownHandle ∧ request.key = item.key then
        { item with priority := request.priority }
      else item := by
  simp only [afterUse, ManagerUse.priorityFor?, ManagerUse.onObject]
  split <;> rfl

/-- An offer goes to the object of its own handle. -/
theorem afterUse_bind (handle : Handle) (item : LiveItem α) (target : Handle) (property : String)
    (value : Value) (type : ValueType) : item.afterUse handle (.bind target property value type) =
      if target = handle then
        { item with object := (Bindable.tryBind item.object property value type).1 }
      else item := by
  simp only [afterUse, ManagerUse.priorityFor?, ManagerUse.onObject]
  split <;> rfl

/-- An item keeps its key in all uses of its manager. -/
theorem foldl_afterUse_key (handle : Handle) (item : LiveItem α) (uses : List (ManagerUse α)) :
    (uses.foldl (afterUse handle) item).key = item.key := by
  induction uses generalizing item with
  | nil => rfl
  | cons use rest ih => rw [List.foldl_cons, ih, afterUse_key]

/-- The object of an item is what the offers to its handle make of it, one after the other. -/
theorem foldl_afterUse_object (handle : Handle) (item : LiveItem α) (uses : List (ManagerUse α)) :
    (uses.foldl (afterUse handle) item).object =
      uses.foldl (ManagerUse.onObject handle) item.object := by
  induction uses generalizing item with
  | nil => rfl
  | cons use rest ih => rw [List.foldl_cons, ih, afterUse_object, List.foldl_cons]

end LiveItem

namespace Manager

variable {α : Type} [Bindable α] {manager : Manager α}

/-- Items that each stay as they are make up the same list. -/
theorem mapIdx_eq_self {items : List (LiveItem α)} {use : ManagerUse α}
    (same : ∀ (position : Nat) (item : LiveItem α), items[position]? = some item →
      item.afterUse (handleFor position) use = item) :
    items.mapIdx (fun position item => item.afterUse (handleFor position) use) = items := by
  refine List.ext_getElem? fun place => ?_
  rw [List.getElem?_mapIdx]
  cases placed : items[place]? with
  | none => rfl
  | some item => rw [Option.map_some, same place item placed]

/-- Items of which only one is changed make up the list with a change at one position. -/
theorem mapIdx_eq_modify {items : List (LiveItem α)} {use : ManagerUse α} {position : Nat}
    {change : LiveItem α → LiveItem α}
    (same : ∀ (place : Nat) (item : LiveItem α), items[place]? = some item →
      item.afterUse (handleFor place) use = if position = place then change item else item) :
    items.mapIdx (fun place item => item.afterUse (handleFor place) use) =
      items.modify position change := by
  refine List.ext_getElem? fun place => ?_
  rw [List.getElem?_mapIdx, List.getElem?_modify]
  cases placed : items[place]? with
  | none => rfl
  | some item => simp [same place item placed]

/-- The items after a request: the one that is asked for is shown, or made if it can be. -/
theorem items_createOrShow (distinct : (manager.items.map LiveItem.key).Nodup)
    (request : ItemRequest) :
    ∃ made : Option (LiveItem α), (manager.createOrShow ownHandle request).1.items =
        manager.items.mapIdx (fun position item =>
          item.afterUse (handleFor position) (.createOrShow ownHandle request)) ++ made.toList ∧
      ∀ item, made = some item → (∀ other ∈ manager.items, other.key ≠ item.key) ∧
        item.key = request.key ∧ item.priority = request.priority := by
  unfold createOrShow
  simp only [ne_eq, not_true_eq_false, if_false]
  cases known : manager.position? request.key with
  | some position =>
    refine ⟨none, ?_, by simp⟩
    obtain ⟨shown, there, own⟩ := exists_item_of_position? known
    simp only [Option.toList_none, List.append_nil]
    rw [mapIdx_eq_modify]
    intro place item placed
    -- The item that was found is the only one with its key.
    have only : request.key = item.key ↔ position = place := by
      constructor
      · exact fun same => position_eq_of_key distinct there placed (own.trans same)
      · rintro rfl
        obtain rfl := Option.some.inj (there.symm.trans placed)
        exact own.symm
    simp only [LiveItem.afterUse_createOrShow, true_and, only]
  | none =>
    -- Without an item of this key none is shown, so all of them stay as they are.
    have absent := ne_key_of_position? known
    have still : manager.items.mapIdx (fun position item =>
        item.afterUse (handleFor position) (.createOrShow ownHandle request)) = manager.items := by
      refine mapIdx_eq_self fun position item placed => ?_
      have other := (absent item (List.mem_of_getElem? placed)).symm
      rw [LiveItem.afterUse_createOrShow, if_neg fun shows => other shows.2]
    rw [still]
    cases made : manager.factory? request.key with
    | none => exact ⟨none, by simp, by simp⟩
    | some object =>
      refine ⟨some ⟨request.key, request.priority, object⟩, rfl, fun item same => ?_⟩
      obtain rfl := Option.some.inj same
      exact ⟨absent, rfl, rfl⟩

/-- The items after a value was offered to the object of a handle. -/
theorem items_bindProperty (room : manager.live < UInt64.size) (handle : Handle)
    (property : String) (value : Value) (type : ValueType) :
    (Machine.bindProperty manager handle property value type).1.items =
      manager.items.mapIdx (fun position item =>
        item.afterUse (handleFor position) (.bind handle property value type)) := by
  -- The handle stands for the position of an item just if it is the one handed out for it.
  have stands : ∀ (place : Nat) (item : LiveItem α), manager.items[place]? = some item →
      (handle = handleFor place ↔ positionOf? handle = some place) := by
    intro place item placed
    have bound := (List.getElem?_eq_some_iff.mp placed).1
    unfold live at room
    exact eq_handleFor_iff (by omega)
  unfold Machine.bindProperty
  cases found : manager.object? handle with
  | none =>
    -- A handle that stands for no item is not the handle of any of them.
    refine (mapIdx_eq_self fun place item placed => ?_).symm
    have elsewhere : handle ≠ handleFor place := by
      intro same
      have given := item?_eq_some_iff.mpr ⟨place, (stands place item placed).mp same, placed⟩
      simp [object?, given] at found
    rw [LiveItem.afterUse_bind, if_neg elsewhere]
  | some object =>
    obtain ⟨shown, given, rfl⟩ := Option.map_eq_some_iff.mp found
    obtain ⟨position, here, there⟩ := item?_eq_some_iff.mp given
    simp only [setObject, here]
    refine (mapIdx_eq_modify fun place item placed => ?_).symm
    by_cases same : position = place
    · subst same
      obtain rfl := Option.some.inj (there.symm.trans placed)
      rw [LiveItem.afterUse_bind, if_pos ((stands position shown there).mpr here), if_pos rfl]
    · have elsewhere : handle ≠ handleFor place := fun equal =>
        same (Option.some.inj (here.symm.trans ((stands place item placed).mp equal)))
      rw [LiveItem.afterUse_bind, if_neg elsewhere, if_neg same]

/-- The items of a manager after one use: those it had, each at its old position, and after them
the item that was asked for, if it was not there before and could be made. -/
theorem items_perform (ofBag : Bag → α) (distinct : (manager.items.map LiveItem.key).Nodup)
    (room : manager.live < UInt64.size) (use : ManagerUse α) :
    ∃ made : Option (LiveItem α), (manager.perform ofBag use).items =
        manager.items.mapIdx (fun position item => item.afterUse (handleFor position) use) ++
          made.toList ∧
      ∀ item, made = some item → (∀ other ∈ manager.items, other.key ≠ item.key) ∧
        use.priorityFor? item.key = some item.priority := by
  cases use with
  | register | registerShape | locate =>
    -- These uses do not touch the items at all.
    refine ⟨none, ?_, by simp⟩
    rw [mapIdx_eq_self fun _ _ _ => rfl]
    simp [perform, register, Manager.locate]
  | bind handle property value type =>
    exact ⟨none, by simp [perform, items_bindProperty room], by simp⟩
  | createOrShow self request =>
    by_cases own : self = ownHandle
    · subst own
      obtain ⟨made, items, fresh⟩ := items_createOrShow distinct request
      refine ⟨made, items, fun item same => ?_⟩
      obtain ⟨absent, key, priority⟩ := fresh item same
      exact ⟨absent, by simp [ManagerUse.priorityFor?, key, priority]⟩
    · -- A request that the manager does not take for its own shows nothing.
      have still : ∀ (handle : Handle) (item : LiveItem α),
          item.afterUse handle (.createOrShow self request) = item := fun handle item => by
        rw [LiveItem.afterUse_createOrShow, if_neg fun shows => own shows.1]
      refine ⟨none, ?_, by simp⟩
      rw [mapIdx_eq_self fun _ item _ => still _ item]
      simp [perform, createOrShow, own]

end Manager

end CallChain

import CallChain.Proofs.Manager.Keys
import Mathlib.Data.List.Induction

/-! Stores: whatever is done with a manager, it has one object for each item and hands it out under
one handle for good. -/

namespace CallChain

namespace Manager

variable {α : Type}

/-- A manager for no items at all is the empty one. -/
@[simp] theorem ofCatalog_nil (ofBag : Bag → α) : ofCatalog ofBag [] = .empty :=
  rfl

/-- A manager for a catalog has made no item yet, and nothing was asked of it. -/
theorem ofCatalog_fresh (ofBag : Bag → α) (catalog : List CatalogItem) :
    (ofCatalog ofBag catalog).items = [] ∧ (ofCatalog ofBag catalog).requests = [] := by
  -- The last item of the catalog is registered with a manager for those before it.
  induction catalog using List.reverseRecOn with
  | nil => exact ⟨rfl, rfl⟩
  | append_singleton catalog last ih =>
    rw [ofCatalog, List.foldl_append]
    exact ih

/-- A new object of an item is like the one that was registered for it last. -/
theorem factory?_register (manager : Manager α) (key : ItemKey) (object : α) (other : ItemKey) :
    (manager.register key object).factory? other =
      if key = other then some object else manager.factory? other := by
  -- What was registered last is looked at first.
  rw [factory?, register, List.find?_cons]
  by_cases same : key = other
  · simp [same]
  · have passed : (key == other) = false := beq_eq_false_iff_ne.mpr same
    simp [same, passed, factory?]

/-- A request changes nothing about what can be made. -/
theorem factories_createOrShow (manager : Manager α) (self : ManagerHandle)
    (request : ItemRequest) :
    (manager.createOrShow self request).1.factories = manager.factories := by
  unfold createOrShow
  -- Whether the item is shown, made or neither of them shows in the items only.
  split
  · rfl
  · split
    · rfl
    · split <;> rfl

/-- Putting an object in place of another changes nothing about what can be made. -/
theorem factories_setObject (manager : Manager α) (handle : Handle) (object : α) :
    (manager.setObject handle object).factories = manager.factories := by
  unfold setObject
  split <;> rfl

/-- A request to the manager that was located gives a valid handle just if its item exists or can
be made. -/
theorem isValid_createOrShow_iff {manager : Manager α} {request : ItemRequest} :
    (manager.createOrShow ownHandle request).2.isValid = true ↔
      (∃ item ∈ manager.items, item.key = request.key) ∨
        (manager.factory? request.key).isSome = true := by
  have known : (manager.position? request.key).isSome = true ↔
      ∃ item ∈ manager.items, item.key = request.key := by
    simp [position?, List.findIdx?_isSome]
  rw [isValid_createOrShow, provides, Bool.or_eq_true, known]

/-- A request for an item that does not exist but can be made puts it after all others. -/
theorem items_createOrShow_of_missing {manager : Manager α} {request : ItemRequest} {object : α}
    (missing : ∀ item ∈ manager.items, item.key ≠ request.key)
    (made : manager.factory? request.key = some object) :
    (manager.createOrShow ownHandle request).1.items =
      manager.items ++ [⟨request.key, request.priority, object⟩] := by
  have unknown : manager.position? request.key = none := by
    simpa [position?, List.findIdx?_eq_none_iff] using missing
  simp [createOrShow, unknown, made]

/-- A valid handle that a request gives stands for the item that was asked for. -/
theorem item?_createOrShow {manager : Manager α} {request : ItemRequest}
    (room : (manager.createOrShow ownHandle request).1.live < UInt64.size)
    (valid : (manager.createOrShow ownHandle request).2.isValid = true) :
    ∃ item, (manager.createOrShow ownHandle request).1.item?
        (manager.createOrShow ownHandle request).2 = some item ∧ item.key = request.key := by
  unfold createOrShow at room valid ⊢
  simp only [ne_eq, not_true_eq_false, if_false] at room valid ⊢
  cases known : manager.position? request.key with
  | some position =>
    -- Showing an item changes its priority, and neither its key nor where it stands.
    obtain ⟨item, placed, own⟩ := exists_item_of_position? known
    have bound := (List.getElem?_eq_some_iff.mp placed).1
    simp only [known, live, List.length_modify] at room
    refine ⟨{ item with priority := request.priority }, ?_, own⟩
    exact item?_eq_some_iff.mpr ⟨position, positionOf?_handleFor (by omega), by simp [placed]⟩
  | none =>
    cases made : manager.factory? request.key with
    | none => simp [known, made, Handle.isValid, Handle.invalid] at valid
    | some object =>
      -- A new item goes to the end, and its handle is for the position there.
      simp only [known, made, live, List.length_append, List.length_singleton] at room
      refine ⟨⟨request.key, request.priority, object⟩, ?_, rfl⟩
      exact item?_eq_some_iff.mpr ⟨_, positionOf?_handleFor room, by simp⟩

variable [Bindable α] {ofBag : Bag → α} {manager : Manager α}

/-- Later uses are made of the manager that the earlier ones have led to. -/
theorem after_append (manager : Manager α) (before later : List (ManagerUse α)) :
    manager.after ofBag (before ++ later) = (manager.after ofBag before).after ofBag later := by
  rw [after, List.foldl_append]
  rfl

/-- A use that comes last is made of the manager that all others have led to. -/
theorem after_concat (manager : Manager α) (uses : List (ManagerUse α)) (last : ManagerUse α) :
    manager.after ofBag (uses ++ [last]) = (manager.after ofBag uses).perform ofBag last :=
  after_append manager uses [last]

/-- A use says what the new objects of an item are like, or leaves it at what was said before. -/
theorem factory?_perform (manager : Manager α) (use : ManagerUse α) (key : ItemKey) :
    (manager.perform ofBag use).factory? key =
      (use.newObject? ofBag key).or (manager.factory? key) := by
  cases use with
  | register item object | registerShape item shape =>
    rw [perform, factory?_register, ManagerUse.newObject?]
    split <;> rfl
  | locate context => rfl
  | createOrShow self request =>
    show (manager.createOrShow self request).1.factory? key = manager.factory? key
    rw [factory?, factories_createOrShow, factory?]
  | bind handle property value type =>
    show (Machine.bindProperty manager handle property value type).1.factory? key =
      manager.factory? key
    -- An offer reaches an object or none at all.
    unfold Machine.bindProperty
    split
    · rfl
    · rw [factory?, factories_setObject, factory?]

omit [Bindable α] in
/-- What a new object of an item is like is what the last use says, if it is about that. -/
theorem newObject?_concat (catalog : List CatalogItem) (uses : List (ManagerUse α))
    (last : ManagerUse α) (key : ItemKey) :
    newObject? ofBag catalog (uses ++ [last]) key =
      (last.newObject? ofBag key).or (newObject? ofBag catalog uses key) := by
  simp only [newObject?, List.filterMap_append, List.getLast?_append]
  -- If the last use is about something else, the uses before it are left.
  cases said : last.newObject? ofBag key <;> simp [said]

omit [Bindable α] in
/-- A manager for a catalog makes what the last entry for an item describes. -/
theorem factory?_ofCatalog (catalog : List CatalogItem) (key : ItemKey) :
    (ofCatalog ofBag catalog).factory? key = newObject? ofBag catalog [] key := by
  induction catalog using List.reverseRecOn with
  | nil => rfl
  | append_singleton catalog last ih =>
    have registered : ofCatalog ofBag (catalog ++ [last]) =
        (ofCatalog ofBag catalog).register last.key (ofBag (.ofShape last.shape)) := by
      rw [ofCatalog, List.foldl_append]
      rfl
    rw [registered, factory?_register, ih]
    -- The last entry counts for its own item, and is not there for any other.
    by_cases own : last.key = key <;> simp [newObject?, own]

/-- Whatever was done with a manager for a catalog, its new objects are as was said last. -/
theorem factory?_after (catalog : List CatalogItem) (uses : List (ManagerUse α)) (key : ItemKey) :
    ((ofCatalog ofBag catalog).after ofBag uses).factory? key =
      newObject? ofBag catalog uses key := by
  -- Each use says what it says, and leaves the rest to the uses before it and to the catalog.
  induction uses using List.reverseRecOn with
  | nil => exact factory?_ofCatalog catalog key
  | append_singleton uses last ih => rw [after_concat, factory?_perform, ih, newObject?_concat]

/-- Items are never taken away. -/
theorem live_le_perform (manager : Manager α) (use : ManagerUse α) :
    manager.live ≤ (manager.perform ofBag use).live := by
  cases use with
  | register | registerShape | locate => exact Nat.le_refl _
  | bind handle property value type =>
    simp only [perform, Machine.bindProperty, live]
    split
    · exact Nat.le_refl _
    · unfold setObject
      split <;> simp
  | createOrShow self request =>
    simp only [perform, createOrShow, live]
    split
    · exact Nat.le_refl _
    · split
      · simp
      · split <;> simp

/-- Items are never taken away, however many uses there are. -/
theorem live_le_after (manager : Manager α) (uses : List (ManagerUse α)) :
    manager.live ≤ (manager.after ofBag uses).live := by
  induction uses generalizing manager with
  | nil => exact Nat.le_refl _
  | cons use rest ih => exact Nat.le_trans (live_le_perform manager use) (ih _)

/-- No two items come to have the same key. -/
theorem distinct_perform (distinct : (manager.items.map LiveItem.key).Nodup)
    (room : manager.live < UInt64.size) (use : ManagerUse α) :
    ((manager.perform ofBag use).items.map LiveItem.key).Nodup := by
  obtain ⟨made, items, fresh⟩ := items_perform ofBag distinct room use
  have keys : (manager.items.mapIdx fun position item =>
      item.afterUse (handleFor position) use).map LiveItem.key = manager.items.map LiveItem.key := by
    refine List.ext_getElem? fun place => ?_
    simp only [List.getElem?_map, List.getElem?_mapIdx, Option.map_map]
    rfl
  rw [items, List.map_append, keys]
  cases made with
  | none => simpa using distinct
  | some item =>
    -- An item is only made when there is none with its key.
    have absent := (fresh item rfl).1
    rw [List.nodup_append]
    refine ⟨distinct, by simp, ?_⟩
    simpa using absent

/-- An item is still there after a use, under the same handle. -/
theorem item?_perform (distinct : (manager.items.map LiveItem.key).Nodup)
    (room : manager.live < UInt64.size) {handle : Handle} {item : LiveItem α}
    (given : manager.item? handle = some item) (use : ManagerUse α) :
    (manager.perform ofBag use).item? handle = some (item.afterUse handle use) := by
  obtain ⟨position, stands, placed⟩ := item?_eq_some_iff.mp given
  have bound := (List.getElem?_eq_some_iff.mp placed).1
  unfold live at room
  obtain ⟨made, items, _⟩ := items_perform ofBag distinct room use
  obtain rfl := (eq_handleFor_iff (by omega)).mpr stands
  refine item?_eq_some_iff.mpr ⟨position, stands, ?_⟩
  rw [items, List.getElem?_append_left (by simpa using bound), List.getElem?_mapIdx, placed,
    Option.map_some]

/-- An item is still there after any number of uses, under the same handle. -/
theorem item?_after (distinct : (manager.items.map LiveItem.key).Nodup) {uses : List (ManagerUse α)}
    (room : (manager.after ofBag uses).live < UInt64.size) {handle : Handle}
    {item : LiveItem α} (given : manager.item? handle = some item) :
    (manager.after ofBag uses).item? handle = some (uses.foldl (LiveItem.afterUse handle) item) := by
  induction uses generalizing manager item with
  | nil => exact given
  | cons use rest ih =>
    have here : manager.live < UInt64.size :=
      Nat.lt_of_le_of_lt (live_le_after manager (use :: rest)) room
    exact ih (distinct_perform distinct here use) room (item?_perform distinct here given use)

omit [Bindable α] in
/-- The priority an item was shown with last is that of the last use, if that has shown it. -/
theorem lastPriority?_concat (key : ItemKey) (uses : List (ManagerUse α)) (last : ManagerUse α) :
    lastPriority? key (uses ++ [last]) = (last.priorityFor? key).or (lastPriority? key uses) := by
  rw [lastPriority?, List.filterMap_append, List.getLast?_append, lastPriority?]
  cases shown : last.priorityFor? key <;> simp [shown]

/-- A use adds its request, if it is one, to those the manager has recorded. -/
theorem requests_perform (manager : Manager α) (use : ManagerUse α) :
    (manager.perform ofBag use).requests = manager.requests ++ use.request?.toList := by
  cases use with
  | register | registerShape | locate => simp [perform, register, locate, ManagerUse.request?]
  | bind handle property value type =>
    simp only [perform, Machine.bindProperty, ManagerUse.request?]
    split
    · simp
    · unfold setObject
      split <;> simp
  | createOrShow self request =>
    simp only [perform, createOrShow, ManagerUse.request?]
    split
    · rfl
    · split
      · rfl
      · split <;> rfl

/-- What a manager keeps to while it is used: its items have different keys and the priorities they
were shown with last, and it has recorded every request. -/
structure Sound (manager : Manager α) (uses : List (ManagerUse α)) : Prop where
  distinct : (manager.items.map LiveItem.key).Nodup
  priorities : ∀ item ∈ manager.items, lastPriority? item.key uses = some item.priority
  requests : manager.requests = uses.filterMap ManagerUse.request?

/-- One more use leaves a manager sound. -/
theorem Sound.perform {uses : List (ManagerUse α)} (sound : manager.Sound uses)
    (room : manager.live < UInt64.size) (use : ManagerUse α) :
    (manager.perform ofBag use).Sound (uses ++ [use]) where
  distinct := distinct_perform sound.distinct room use
  priorities := by
    intro item member
    obtain ⟨made, items, fresh⟩ := items_perform ofBag sound.distinct room use
    rw [lastPriority?_concat]
    rw [items, List.mem_append] at member
    -- An old item has the new priority if it was shown, and else the one recorded before.
    rcases member with kept | added
    · obtain ⟨position, bound, rfl⟩ := List.mem_mapIdx.mp kept
      have before := sound.priorities _ (List.getElem_mem bound)
      rw [LiveItem.afterUse_key, before, Option.or_some]
      rfl
    · obtain ⟨_, shown⟩ := fresh item (by simpa using added)
      rw [shown, Option.some_or]
  requests := by
    rw [requests_perform, sound.requests, List.filterMap_append]
    cases asked : use.request? <;> simp [asked]

/-- A manager that has made no item yet stays sound, whatever is done with it. -/
theorem sound_after (none : manager.items = []) (unasked : manager.requests = [])
    {uses : List (ManagerUse α)} (room : (manager.after ofBag uses).live < UInt64.size) :
    (manager.after ofBag uses).Sound uses := by
  -- The last use meets the manager that all others have led to.
  induction uses using List.reverseRecOn with
  | nil => exact ⟨by simp [after, none], by simp [after, none], by simp [after, unasked]⟩
  | append_singleton uses last ih =>
    rw [after_concat] at room ⊢
    have here := Nat.lt_of_le_of_lt (live_le_perform _ last) room
    exact (ih here).perform here last

/-- A valid handle that was given for an item stands for an item with its key from then on. -/
theorem exists_item_of_answered (none : manager.items = []) (unasked : manager.requests = [])
    {uses : List (ManagerUse α)} (room : (manager.after ofBag uses).live < UInt64.size)
    {key : ItemKey} {handle : Handle} (answered : manager.Answered ofBag uses key handle)
    (valid : handle.isValid = true) :
    ∃ item, (manager.after ofBag uses).item? handle = some item ∧ item.key = key := by
  obtain ⟨before, request, later, rfl, rfl, rfl⟩ := answered
  have onward : manager.after ofBag (before ++ .createOrShow ownHandle request :: later) =
      (manager.after ofBag (before ++ [.createOrShow ownHandle request])).after ofBag later := by
    rw [← after_append, List.append_assoc, List.singleton_append]
  rw [onward] at room ⊢
  have here := Nat.lt_of_le_of_lt (live_le_after _ later) room
  have sound := sound_after none unasked here
  rw [after_concat] at here room sound ⊢
  -- The item was there right after the request, and so it still is.
  obtain ⟨item, given, own⟩ := item?_createOrShow here valid
  exact ⟨_, item?_after sound.distinct room given, by rw [LiveItem.foldl_afterUse_key, own]⟩

/-- Two valid handles that were given are the same just if the same item was asked for. -/
theorem answered_eq_iff (none : manager.items = []) (unasked : manager.requests = [])
    {uses : List (ManagerUse α)} (room : (manager.after ofBag uses).live < UInt64.size)
    {key other : ItemKey} {first second : Handle}
    (one : manager.Answered ofBag uses key first) (two : manager.Answered ofBag uses other second)
    (valid : first.isValid = true) (sane : second.isValid = true) :
    first = second ↔ key = other := by
  obtain ⟨item, given, rfl⟩ := exists_item_of_answered none unasked room one valid
  obtain ⟨twin, present, rfl⟩ := exists_item_of_answered none unasked room two sane
  constructor
  · rintro rfl
    rw [Option.some.inj (given.symm.trans present)]
  · intro same
    -- Both handles stand for the one position that an item with this key can have.
    obtain ⟨position, stands, placed⟩ := item?_eq_some_iff.mp given
    obtain ⟨place, holds, there⟩ := item?_eq_some_iff.mp present
    have sound := sound_after none unasked room
    obtain rfl := position_eq_of_key sound.distinct placed there same
    exact positionOf?_inj stands holds

/-- An item that was there after some of the uses is there after all of them. -/
theorem exists_kept (none : manager.items = []) (unasked : manager.requests = [])
    {before later : List (ManagerUse α)}
    (room : (manager.after ofBag (before ++ later)).live < UInt64.size) {handle : Handle}
    {item : LiveItem α} (given : (manager.after ofBag before).item? handle = some item) :
    ∃ kept, (manager.after ofBag (before ++ later)).item? handle = some kept ∧
      kept.key = item.key ∧ kept.object = later.foldl (ManagerUse.onObject handle) item.object := by
  rw [after_append] at room ⊢
  have here := Nat.lt_of_le_of_lt (live_le_after _ later) room
  have sound := sound_after none unasked here
  exact ⟨_, item?_after sound.distinct room given, LiveItem.foldl_afterUse_key handle item later,
    LiveItem.foldl_afterUse_object handle item later⟩

/-- What a manager for a catalog is to those who have used it: a store with one object for each
item. -/
structure IsStore (ofBag : Bag → α) (catalog : List CatalogItem) (uses : List (ManagerUse α)) :
    Prop where
  /-- No two items have the same key. -/
  distinct : ((reached ofBag catalog uses).items.map LiveItem.key).Nodup
  /-- Whoever looks for the manager is given its own handle. -/
  located : ∀ context, ((reached ofBag catalog uses).locate context).2 = ownHandle
  /-- A request with that handle is answered with a valid one just if its item exists, or the
  catalog or a registration has said what its new objects are like. -/
  answers : ∀ request,
    ((reached ofBag catalog uses).createOrShow ownHandle request).2.isValid = true ↔
      (∃ item ∈ (reached ofBag catalog uses).items, item.key = request.key) ∨
        (newObject? ofBag catalog uses request.key).isSome = true
  /-- An item that did not exist is made as was said last, with the priority of the request. -/
  makes : ∀ request object,
    (∀ item ∈ (reached ofBag catalog uses).items, item.key ≠ request.key) →
    newObject? ofBag catalog uses request.key = some object →
    ((reached ofBag catalog uses).createOrShow ownHandle request).1.items =
      (reached ofBag catalog uses).items ++ [⟨request.key, request.priority, object⟩]
  /-- Two valid answers are the same just if the same item was asked for. -/
  agrees : ∀ key other first second, (ofCatalog ofBag catalog).Answered ofBag uses key first →
    (ofCatalog ofBag catalog).Answered ofBag uses other second →
    first.isValid = true → second.isValid = true → (first = second ↔ key = other)
  /-- A valid answer stands for the item that was asked for. -/
  resolves : ∀ key handle, (ofCatalog ofBag catalog).Answered ofBag uses key handle →
    handle.isValid = true →
    ∃ item, (reached ofBag catalog uses).item? handle = some item ∧ item.key = key
  /-- An item that was there at any time still is, under the same handle, and its object is what
  offers made to that handle have made of it; new registrations are nothing to it. -/
  stays : ∀ before later, uses = before ++ later → ∀ handle item,
    (reached ofBag catalog before).item? handle = some item →
    ∃ kept, (reached ofBag catalog uses).item? handle = some kept ∧ kept.key = item.key ∧
      kept.object = later.foldl (ManagerUse.onObject handle) item.object
  /-- The handles that stand for items are those from one to the number of items. -/
  numbers : ∀ handle, ((reached ofBag catalog uses).item? handle).isSome ↔
    ∃ raw, handle.raw = some raw ∧ 1 ≤ raw.toNat ∧ raw.toNat ≤ (reached ofBag catalog uses).live
  /-- The priority of an item is that of the last request that has shown it. -/
  priority : ∀ handle item, (reached ofBag catalog uses).item? handle = some item →
    (reached ofBag catalog uses).priority? handle = lastPriority? item.key uses
  /-- Every request is recorded, in order. -/
  requests : (reached ofBag catalog uses).requests = uses.filterMap ManagerUse.request?
  /-- A request with another handle is answered with the invalid one, and only recorded. -/
  refuses : ∀ self request, self ≠ ownHandle →
    (reached ofBag catalog uses).createOrShow self request =
      ({ reached ofBag catalog uses with
        requests := (reached ofBag catalog uses).requests ++ [request] }, .invalid)

/-- Whatever is done with a manager for a catalog, in any order, it is a store with one object for
each item, as long as its items can be numbered. -/
theorem isStore_of_uses (ofBag : Bag → α) (catalog : List CatalogItem) (uses : List (ManagerUse α))
    (room : (reached ofBag catalog uses).live < UInt64.size) : IsStore ofBag catalog uses := by
  obtain ⟨none, unasked⟩ := ofCatalog_fresh ofBag catalog
  have sound := sound_after none unasked room
  refine
    { distinct := sound.distinct
      located := fun _ => rfl
      answers := ?_
      makes := ?_
      agrees := fun _ _ _ _ => answered_eq_iff none unasked room
      resolves := fun _ _ => exists_item_of_answered none unasked room
      stays := fun _ _ split _ _ => by
        subst split
        exact exists_kept none unasked room
      numbers := fun _ => item?_isSome_iff
      priority := ?_
      requests := sound.requests
      refuses := ?_ }
  · intro request
    rw [isValid_createOrShow_iff, reached, factory?_after]
  · intro request object missing said
    -- The manager has nothing to go by but what it was told.
    have made : (reached ofBag catalog uses).factory? request.key = some object :=
      (factory?_after catalog uses request.key).trans said
    exact items_createOrShow_of_missing missing made
  · intro handle item given
    obtain ⟨position, _, placed⟩ := item?_eq_some_iff.mp given
    rw [sound.priorities item (List.mem_of_getElem? placed), priority?, given, Option.map_some]
  · intro self request other
    simp [createOrShow, other]

/-- Two items that can be made, as bags with a title. -/
def shelf : List CatalogItem :=
  [⟨"panel", "first", ⟨"Popup", [⟨"Title", .string⟩]⟩⟩,
    ⟨"panel", "second", ⟨"Popup", [⟨"Title", .string⟩]⟩⟩]

/-- A manager is found and asked for an item that it makes, for one that it cannot make and, by a
handle that is not its own, for one that it could make. The item that was made is then given a
title, described anew for later and shown again. -/
def shelfUses : List (ManagerUse Bag) :=
  [.locate .invalid, .createOrShow ownHandle ⟨"panel", "second", 4, .invalid⟩,
    .createOrShow ownHandle ⟨"panel", "third", 5, .invalid⟩,
    .createOrShow ⟨7⟩ ⟨"panel", "first", 6, .invalid⟩,
    .bind ⟨some 1⟩ "Title" (.string "Second") .string,
    .registerShape ⟨"panel", "second"⟩ ⟨"Banner", []⟩,
    .createOrShow ownHandle ⟨"panel", "second", 9, .invalid⟩]

/-- The manager of the shelf is a store after all of this. Its first handle stands for the item that
was made, with the title that was given to it and the priority of the last request, although new
objects of the item would be of another kind by now. Of the others the item that is in the catalog
can be had, and the one that nobody has described cannot. -/
theorem isStore_of_uses_shelf :
    let store := reached id shelf shelfUses
    store.live < UInt64.size ∧ IsStore id shelf shelfUses ∧
      (store.item? ⟨some 1⟩).map LiveItem.key = some ⟨"panel", "second"⟩ ∧
      store.priority? ⟨some 1⟩ = some 9 ∧
      (store.object? ⟨some 1⟩).map Bag.entries = some [("Title", .string "Second")] ∧
      newObject? id shelf shelfUses ⟨"panel", "second"⟩ = some (.ofShape ⟨"Banner", []⟩) ∧
      (store.createOrShow ownHandle ⟨"panel", "first", 2, .invalid⟩).2.isValid = true ∧
      (store.createOrShow ownHandle ⟨"panel", "third", 2, .invalid⟩).2.isValid = false := by
  intro store
  have room : store.live < UInt64.size := by decide +kernel
  have isStore := isStore_of_uses id shelf shelfUses room
  -- One is the number of an item, for one item was made.
  have numbered : (store.item? ⟨some 1⟩).isSome = true :=
    (isStore.numbers ⟨some 1⟩).mpr ⟨1, rfl, by decide, by decide +kernel⟩
  obtain ⟨item, given⟩ := Option.isSome_iff_exists.mp numbered
  have key : (store.item? ⟨some 1⟩).map LiveItem.key = some ⟨"panel", "second"⟩ := by
    decide +kernel
  have own : item.key = ⟨"panel", "second"⟩ := by simpa [given] using key
  have shown : store.priority? ⟨some 1⟩ = some 9 := by
    rw [isStore.priority ⟨some 1⟩ item given, own]
    decide +kernel
  refine ⟨room, isStore, key, shown, by decide +kernel, by decide +kernel, ?_, ?_⟩
  · exact (isStore.answers ⟨"panel", "first", 2, .invalid⟩).mpr (.inr (by decide +kernel))
  · -- There is no such item, and nothing says what its objects are like.
    rw [← Bool.not_eq_true, isStore.answers ⟨"panel", "third", 2, .invalid⟩]
    decide +kernel

end Manager

end CallChain

import CallChain.Proofs.Value.Conversion
import CallChain.Run.Chain
import Mathlib.Data.List.Induction

/-! Property bags: the shape of a bag, which never changes, decides what the bag makes of an offer,
and what it takes is put in place of what the property held. -/

namespace CallChain

namespace TypeShape

/-- The type that is declared for a property: that of the first property of the name. -/
def declared? (shape : TypeShape) (name : String) : Option ValueType :=
  (shape.properties.find? fun property => property.name == name).map PropertyShape.type

/-- The value that objects of a shape take when one is offered for a property. -/
def taken (shape : TypeShape) (name : String) (value : Value) (type : ValueType) :
    Except BindFault Value :=
  match shape.declared? name with
  | none => .error .missingProperty
  | some declared =>
    if declared ≠ type then .error (.typeMismatch type declared)
    else
      match value.coerce? type with
      | none => .error (.typeMismatch type value.type)
      | some converted => .ok converted

/-- A value of the type it is offered for is taken as it is, unless the property is missing or of
another type. -/
theorem taken_eq {type : ValueType} {value : Value} (typed : value.type = type) (shape : TypeShape)
    (name : String) : shape.taken name value type =
      match shape.declared? name with
      | none => .error .missingProperty
      | some declared =>
        if declared = type then .ok value else .error (.typeMismatch type declared) := by
  subst typed
  unfold taken
  cases shape.declared? name with
  | none => rfl
  | some declared => by_cases same : declared = value.type <;> simp [same, Value.coerce?_type]

end TypeShape

namespace Bag

/-- What a bag is like, whatever its properties hold. -/
def shape (bag : Bag) : TypeShape :=
  ⟨bag.typeName, bag.properties.map Property.shape⟩

/-- The properties with a value in the first one of a name. -/
def putFirst (name : String) (value : Value) : List Property → List Property
  | [] => []
  | property :: rest =>
    if property.shape.name = name then { property with value } :: rest
    else property :: putFirst name value rest

/-- The bag with a value in the first property of a name. -/
def put (bag : Bag) (name : String) (value : Value) : Bag :=
  { bag with properties := putFirst name value bag.properties }

variable {name other : String} {value : Value}

/-- Putting a value leaves the shape of a bag alone. -/
@[simp] theorem shape_put (bag : Bag) (name : String) (value : Value) :
    (bag.put name value).shape = bag.shape := by
  have same (properties : List Property) :
      (putFirst name value properties).map Property.shape = properties.map Property.shape := by
    induction properties with
    | nil => rfl
    | cons property rest ih =>
      by_cases named : property.shape.name = name <;> simp [putFirst, named, ih]
  simp [put, shape, same]

/-- Of two values put into one property, the second stays. -/
theorem put_put (bag : Bag) (name : String) (value second : Value) :
    (bag.put name value).put name second = bag.put name second := by
  have last (properties : List Property) :
      putFirst name second (putFirst name value properties) = putFirst name second properties := by
    induction properties with
    | nil => rfl
    | cons property rest ih =>
      by_cases named : property.shape.name = name <;> simp [putFirst, named, ih]
  simp [put, last]

/-- Values are put into different properties in either order. -/
theorem put_comm (bag : Bag) (apart : name ≠ other) (value second : Value) :
    (bag.put name value).put other second = (bag.put other second).put name value := by
  have either (properties : List Property) :
      putFirst other second (putFirst name value properties) =
        putFirst name value (putFirst other second properties) := by
    induction properties with
    | nil => rfl
    | cons property rest ih =>
      by_cases named : property.shape.name = name
      · simp [putFirst, named, apart]
      · -- A property that is passed by the one search may be where the other one ends.
        by_cases labelled : property.shape.name = other
        · simp [putFirst, labelled, apart.symm]
        · simp [putFirst, named, labelled, ih]
  simp [put, either]

/-- Writing to the position of the first property of a name is putting a value into it. -/
theorem set_findIdx_eq_putFirst {properties : List Property} {property : Property}
    (found : properties.find? (fun property => property.shape.name == name) = some property) :
    properties.set (properties.findIdx fun property => property.shape.name == name)
        { property with value } = putFirst name value properties := by
  -- The search and the writing go past the same properties.
  induction properties with
  | nil => cases found
  | cons first rest ih =>
    by_cases named : first.shape.name = name
    · obtain rfl : first = property := by simpa [named] using found
      simp [putFirst, named, List.findIdx_cons]
    · have later : rest.find? (fun property => property.shape.name == name) = some property := by
        simpa [named] using found
      have passed : (first.shape.name == name) = false := beq_eq_false_iff_ne.mpr named
      simp [putFirst, named, List.findIdx_cons, passed, ih later]

/-- What a bag makes of an offer is decided by its shape: it puts in what is taken, or stays as it
is. It never has a property and refuses the value all the same. -/
theorem tryBind_eq (bag : Bag) (name : String) (value : Value) (type : ValueType) :
    Bindable.tryBind bag name value type =
      match bag.shape.taken name value type with
      | .ok converted => (bag.put name converted, .ok ())
      | .error fault => (bag, .error fault) := by
  have declared : bag.shape.declared? name =
      (bag.properties.find? fun property => property.shape.name == name).map
        fun property => property.shape.type := by
    simp [TypeShape.declared?, shape, List.find?_map, Function.comp_def]
  have looked : Bindable.find? bag name =
      (bag.properties.find? fun property => property.shape.name == name).map fun property =>
        ⟨bag.properties.findIdx fun property => property.shape.name == name,
          property.shape.type⟩ := by
    rw [List.find?_eq_getElem?_findIdx]
    rfl
  rw [Bindable.tryBind, looked, TypeShape.taken, declared]
  cases found : bag.properties.find? fun property => property.shape.name == name with
  | none => rfl
  | some property =>
    simp only [Option.map_some]
    by_cases same : property.shape.type = type
    · subst same
      simp only [ne_eq, not_true_eq_false, if_false]
      cases converts : value.coerce? property.shape.type with
      | none => rfl
      | some converted =>
        -- The value is of the declared type by now, so it is not refused any more.
        have typed := Value.type_of_coerce? converts
        have placed : bag.properties[bag.properties.findIdx fun property =>
            property.shape.name == name]? = some property := by
          rw [← List.find?_eq_getElem?_findIdx, found]
        simp [Bindable.assign, Bindable.offered, assign?, placed, typed,
          set_findIdx_eq_putFirst found, put]
    · simp [same]

/-- An offer leaves the shape of a bag alone. -/
@[simp] theorem shape_tryBind (bag : Bag) (name : String) (value : Value) (type : ValueType) :
    (Bindable.tryBind bag name value type).1.shape = bag.shape := by
  rw [tryBind_eq]
  cases bag.shape.taken name value type <;> simp

/-- What becomes of an offer is decided by the shape of the bag. -/
theorem snd_tryBind (bag : Bag) (name : String) (value : Value) (type : ValueType) :
    (Bindable.tryBind bag name value type).2 =
      (bag.shape.taken name value type).map fun _ => () := by
  rw [tryBind_eq]
  cases bag.shape.taken name value type <;> rfl

end Bag

/-- What is offered to an object: a value for the property of a name, as one of a type. -/
structure Offer where
  name : String
  value : Value
  type : ValueType

namespace Bag

/-- The bag after an offer, whether it took the value or not. -/
def after (bag : Bag) (offer : Offer) : Bag :=
  (Bindable.tryBind bag offer.name offer.value offer.type).1

/-- A bag after an offer is of the shape that it was of. -/
@[simp] theorem shape_after (bag : Bag) (offer : Offer) : (bag.after offer).shape = bag.shape :=
  shape_tryBind bag offer.name offer.value offer.type

/-- A bag after offers is of the shape that it was of. -/
@[simp] theorem shape_foldl_after (bag : Bag) (offers : List Offer) :
    (offers.foldl after bag).shape = bag.shape := by
  induction offers generalizing bag with
  | nil => rfl
  | cons offer rest ih => exact (ih (bag.after offer)).trans (shape_after bag offer)

/-- An offer puts in the value that the shape of the bag lets it take, if any. -/
theorem after_eq (bag : Bag) (offer : Offer) :
    bag.after offer =
      match bag.shape.taken offer.name offer.value offer.type with
      | .ok converted => bag.put offer.name converted
      | .error _ => bag := by
  rw [after, tryBind_eq]
  cases bag.shape.taken offer.name offer.value offer.type <;> rfl

/-- The same offer made twice in a row is as good as made once. -/
theorem after_self (bag : Bag) (offer : Offer) :
    (bag.after offer).after offer = bag.after offer := by
  rw [after_eq (bag.after offer), shape_after, after_eq bag]
  -- What was taken the first time is taken again and put over itself.
  cases bag.shape.taken offer.name offer.value offer.type with
  | ok converted => exact put_put bag offer.name converted converted
  | error fault => rfl

/-- What an offer does is undone by the next one, or the two could come in the other order. -/
theorem after_after (bag : Bag) (early late : Offer) :
    (bag.after early).after late = bag.after late ∨
      (bag.after early).after late = (bag.after late).after early := by
  rw [after_eq (bag.after early), after_eq (bag.after late), shape_after, shape_after,
    after_eq bag early, after_eq bag late]
  -- Both values are judged by the one shape, so an offer that is refused is refused in any place.
  cases bag.shape.taken early.name early.value early.type with
  | error fault => exact .inl rfl
  | ok first =>
    cases bag.shape.taken late.name late.value late.type with
    | error fault => exact .inr rfl
    | ok second =>
      by_cases same : early.name = late.name
      · simp only [same]
        exact .inl (put_put bag late.name first second)
      · exact .inr (put_comm bag same first second)

/-- Whatever is offered in between, an offer that comes last makes up for the same one before. -/
theorem after_foldl_after (bag : Bag) (offers : List Offer) (offer : Offer) :
    (offers.foldl after (bag.after offer)).after offer = (offers.foldl after bag).after offer := by
  -- The early offer is moved past the others one by one, until it is undone or meets its like.
  induction offers generalizing bag with
  | nil => exact after_self bag offer
  | cons next rest ih =>
    rw [List.foldl_cons, List.foldl_cons]
    rcases after_after bag offer next with undone | later
    · rw [undone]
    · rw [later]
      exact ih (bag.after next)

/-- Offers that were all made change nothing when they are all made again. -/
theorem foldl_after_again (bag : Bag) (offers : List Offer) :
    offers.foldl after (offers.foldl after bag) = offers.foldl after bag := by
  -- The offers are taken off from the end, where nothing comes after that could undo them.
  induction offers using List.reverseRecOn with
  | nil => rfl
  | append_singleton before last ih =>
    simp only [List.foldl_append, List.foldl_cons, List.foldl_nil]
    rw [after_foldl_after, ih]

end Bag

/-- What becomes of an attempt to set a property, and what is told of the object, is decided by the
shape of the object. -/
theorem Machine.snd_bindProperty (manager : Manager Bag) (handle : Handle) (property : String)
    (value : Value) (type : ValueType) :
    (bindProperty manager handle property value type).2 =
      match (manager.object? handle).map Bag.shape with
      | none => (none, .error .objectUnavailable)
      | some shape => (some shape.name,
          ((shape.taken property value type).map fun _ => ()).mapError .binding) := by
  unfold bindProperty
  cases manager.object? handle with
  | none => rfl
  | some bag =>
    simp only [Option.map_some, ← Bag.snd_tryBind]
    rfl

end CallChain

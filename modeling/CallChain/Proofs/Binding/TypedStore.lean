import CallChain.Proofs.Binding.Bag
import CallChain.Proofs.Sequence

/-! Bags as typed stores: whatever was offered to a bag, it holds one value of the right type for
each property of its shape, and the next offer either changes one of them or nothing. -/

namespace CallChain

namespace TypeShape

/-- The first property of a name stands at a position and is of a type. -/
structure Declares (shape : TypeShape) (name : String) (position : Nat) (type : ValueType) :
    Prop where
  placed : shape.properties[position]? = some ⟨name, type⟩
  -- Later properties of the name are out of reach.
  first : ∀ earlier < position, ∀ property, shape.properties[earlier]? = some property →
    property.name ≠ name

/-- Why objects of a shape refuse a value that is offered for a property. -/
inductive Refuses (shape : TypeShape) (name : String) (value : Value) (type : ValueType) :
    BindFault → Prop where
  | missing (absent : ∀ property ∈ shape.properties, property.name ≠ name) :
      Refuses shape name value type .missingProperty
  /-- The property is of another type than the one it was asked for. -/
  | mistaken {position : Nat} {declared : ValueType}
      (declares : shape.Declares name position declared) (other : declared ≠ type) :
      Refuses shape name value type (.typeMismatch type declared)
  /-- The property is of the right type, and the value is not. -/
  | unfit {position : Nat} (declares : shape.Declares name position type)
      (unfit : value.coerce? type = none) :
      Refuses shape name value type (.typeMismatch type value.type)

variable {shape : TypeShape} {name : String} {value : Value} {type : ValueType}

/-- The type that is declared for a property is that of the first property of the name. -/
theorem declared?_eq_some_iff :
    shape.declared? name = some type ↔ ∃ position, shape.Declares name position type := by
  simp only [declared?, Option.map_eq_some_iff, List.find?_eq_some_iff_getElem, beq_iff_eq,
    Bool.not_eq_true', beq_eq_false_iff_ne]
  constructor
  · intro found
    obtain ⟨property, ⟨named, position, inside, rfl, first⟩, typed⟩ := found
    refine ⟨position, ⟨?_, ?_⟩⟩
    · rw [List.getElem?_eq_getElem inside, ← named, ← typed]
    · intro earlier before other placed
      -- A property before the one that was found has another name.
      obtain ⟨_, rfl⟩ := List.getElem?_eq_some_iff.mp placed
      exact first earlier before
  · intro declares
    obtain ⟨position, placed, first⟩ := declares
    obtain ⟨inside, found⟩ := List.getElem?_eq_some_iff.mp placed
    refine ⟨_, ⟨rfl, position, inside, found, ?_⟩, rfl⟩
    -- None of the properties before it answers the search.
    intro earlier before
    exact first earlier before _ (List.getElem?_eq_getElem (Nat.lt_trans before inside))

/-- A property is not declared just if no property has its name. -/
theorem declared?_eq_none_iff :
    shape.declared? name = none ↔ ∀ property ∈ shape.properties, property.name ≠ name := by
  simp [declared?]

/-- The search for a name ends at the position of the first property that has it. -/
theorem Declares.findIdx_eq {position : Nat} (declares : shape.Declares name position type) :
    (shape.properties.findIdx fun property => property.name == name) = position := by
  obtain ⟨inside, found⟩ := List.getElem?_eq_some_iff.mp declares.placed
  rw [List.findIdx_eq inside]
  refine ⟨by simp [found], ?_⟩
  intro earlier before
  have passed :=
    declares.first earlier before _ (List.getElem?_eq_getElem (Nat.lt_trans before inside))
  simpa using passed

/-- A value is taken just if it can be converted to the type that is asked for, and the first
property of the name is of this type. -/
theorem taken_eq_ok_iff {converted : Value} :
    shape.taken name value type = .ok converted ↔
      (∃ position, shape.Declares name position type) ∧
        value.coerce? type = some converted := by
  rw [← declared?_eq_some_iff]
  unfold taken
  cases shape.declared? name with
  | none => simp
  | some declared =>
    by_cases same : declared = type
    · -- The property is of the type, so it is all up to the value.
      subst same
      cases value.coerce? declared <;> simp
    · simp [same]

/-- A value that is not taken is refused for one of the three reasons. -/
theorem taken_eq_error_iff {fault : BindFault} :
    shape.taken name value type = .error fault ↔ shape.Refuses name value type fault := by
  constructor
  · intro refused
    unfold taken at refused
    -- The three tests are gone through in turn: the name, the type and the value.
    cases known : shape.declared? name with
    | none =>
      simp only [known] at refused
      cases refused
      exact .missing (declared?_eq_none_iff.mp known)
    | some declared =>
      obtain ⟨position, declares⟩ := declared?_eq_some_iff.mp known
      simp only [known] at refused
      by_cases same : declared = type
      · subst same
        -- The property is right, so it must be the value that does not fit.
        cases converts : value.coerce? declared with
        | none =>
          simp only [ne_eq, not_true_eq_false, if_false, converts] at refused
          cases refused
          exact .unfit declares converts
        | some converted => simp [converts] at refused
      · simp only [ne_eq, same, not_false_eq_true, if_true] at refused
        cases refused
        exact .mistaken declares same
  · intro refuses
    unfold taken
    cases refuses with
    | missing absent => rw [declared?_eq_none_iff.mpr absent]
    | mistaken declares other => simp [declared?_eq_some_iff.mpr ⟨_, declares⟩, other]
    | unfit declares unfit => simp [declared?_eq_some_iff.mpr ⟨_, declares⟩, unfit]

end TypeShape

namespace Bag

variable {bag : Bag} {shape : TypeShape} {name : String} {type : ValueType}

/-- An object that was just made is of the shape that it was made for. -/
@[simp] theorem shape_ofShape (shape : TypeShape) : (ofShape shape).shape = shape := by
  simp [ofShape, Bag.shape, Function.comp_def]

/-- A value that was put into a declared property is what the property holds. -/
theorem get?_put (bag : Bag) (value : Value) (declared : (bag.shape.declared? name).isSome) :
    (bag.put name value).get? name = some value := by
  -- The search stops where the value was put, which is the first property of the name.
  have held (properties : List Property)
      (present : ∃ property ∈ properties, property.shape.name = name) :
      ((putFirst name value properties).find? fun property => property.shape.name == name).map
        Property.value = some value := by
    induction properties with
    | nil => simp at present
    | cons property rest ih =>
      by_cases named : property.shape.name = name
      · simp [putFirst, named]
      · -- The property is passed by in the search as it was when the value was put in.
        have later : ∃ property ∈ rest, property.shape.name = name := by simpa [named] using present
        simpa [putFirst, named] using ih later
  refine held bag.properties ?_
  simpa [TypeShape.declared?, Bag.shape] using declared

/-- A value that is put into a property goes to the position of the first one of the name. -/
theorem getElem?_put {position : Nat} (declares : bag.shape.Declares name position type)
    (value : Value) (place : Nat) :
    (bag.put name value).properties[place]? =
      if position = place then some ⟨⟨name, type⟩, value⟩ else bag.properties[place]? := by
  -- The bag has a property of this shape at the position.
  have held : (bag.properties[position]?).map Property.shape = some ⟨name, type⟩ := by
    rw [← List.getElem?_map]
    exact declares.placed
  obtain ⟨property, placed, shaped⟩ := Option.map_eq_some_iff.mp held
  have inside : position < bag.properties.length := (List.getElem?_eq_some_iff.mp placed).1
  have index : (bag.properties.findIdx fun property => property.shape.name == name) = position := by
    have searched := declares.findIdx_eq
    rwa [Bag.shape, List.findIdx_map] at searched
  have found : bag.properties.find? (fun property => property.shape.name == name) =
      some property := by
    rw [List.find?_eq_getElem?_findIdx, index, placed]
  -- The value is written to the position at which the search for the name has ended.
  rw [put, ← set_findIdx_eq_putFirst found, index, List.getElem?_set, shaped]
  simp [inside]

/-- What a bag of a shape keeps to: it has the properties of the shape in order, each with a value
of its type. -/
structure Holds (bag : Bag) (shape : TypeShape) : Prop where
  shape_eq : bag.shape = shape
  typed : ∀ property ∈ bag.properties, property.value.type = property.shape.type

/-- A bag that was just made holds a zero of each type. -/
theorem holds_ofShape (shape : TypeShape) : (ofShape shape).Holds shape where
  shape_eq := shape_ofShape shape
  typed := by simp [ofShape]

/-- A bag still holds values of the right types after it was offered something. -/
theorem Holds.after (holds : bag.Holds shape) (offer : Offer) : (bag.after offer).Holds shape where
  shape_eq := (shape_after bag offer).trans holds.shape_eq
  typed := by
    intro property member
    rw [after_eq] at member
    cases outcome : bag.shape.taken offer.name offer.value offer.type with
    | error fault =>
      -- The bag is as it was.
      rw [outcome] at member
      exact holds.typed property member
    | ok converted =>
      rw [outcome] at member
      obtain ⟨⟨position, declares⟩, converts⟩ := TypeShape.taken_eq_ok_iff.mp outcome
      -- The property is the one that took the value, or it was there before.
      obtain ⟨place, placed⟩ := List.mem_iff_getElem?.mp member
      rw [getElem?_put declares] at placed
      split at placed
      · cases placed
        exact Value.type_of_coerce? converts
      · exact holds.typed property (List.mem_of_getElem? placed)

end Bag

/-- A call that offers something to an object, and reports why it was refused or only that it
was. -/
inductive BindCall where
  | tried (offer : Offer)
  | quiet (offer : Offer)

namespace Bag

/-- The bag after a call, whatever came of it. -/
def afterCall (bag : Bag) : BindCall → Bag
  | .tried offer => bag.after offer
  | .quiet offer => (Bindable.bindQuietly bag offer.name offer.value offer.type).1

/-- A typed store: a bag with one value for each property of a shape, which takes what fits the
first property of the name, and stays as it is otherwise. -/
structure IsTypedStore (bag : Bag) (shape : TypeShape) : Prop where
  /-- There is one value for each declared property, in the order of the shape. -/
  declared : bag.properties.map Property.shape = shape.properties
  /-- Each value is of the type that is declared for it. -/
  typed : ∀ property ∈ bag.properties, property.value.type = property.shape.type
  /-- A value is taken just if the first property of the name is of the type that was asked for, and
  the value can be converted to it. -/
  takes_iff : ∀ name value type, (Bindable.tryBind bag name value type).2 = .ok () ↔
    (∃ position, shape.Declares name position type) ∧
      ∃ converted, value.coerce? type = some converted
  /-- A value that is taken is what the property holds from then on, and nothing else changes. -/
  stores : ∀ name value type position converted, shape.Declares name position type →
    value.coerce? type = some converted →
    let after := (Bindable.tryBind bag name value type).1
    after.get? name = some converted ∧
      ∀ place ≠ position, after.properties[place]? = bag.properties[place]?
  /-- A value is refused for one of the reasons that the shape gives, none of which is that the bag
  has the property and does not take the value. -/
  refuses_iff : ∀ name value type fault,
    (Bindable.tryBind bag name value type).2 = .error fault ↔ shape.Refuses name value type fault
  /-- A bag that refuses a value stays as it is. -/
  untouched : ∀ name value type fault, (Bindable.tryBind bag name value type).2 = .error fault →
    (Bindable.tryBind bag name value type).1 = bag
  /-- A call that does not tell the reason does the same, and tells whether the value was taken. -/
  quietly : ∀ name value type,
    (Bindable.bindQuietly bag name value type).1 = (Bindable.tryBind bag name value type).1 ∧
      ((Bindable.bindQuietly bag name value type).2.1 = true ↔
        (Bindable.tryBind bag name value type).2 = .ok ())

variable {bag : Bag} {shape : TypeShape}

/-- A call that does not tell the reason is an offer like any other. -/
theorem bindQuietly_eq (bag : Bag) (name : String) (value : Value) (type : ValueType) :
    (Bindable.bindQuietly bag name value type).1 = (Bindable.tryBind bag name value type).1 ∧
      ((Bindable.bindQuietly bag name value type).2.1 = true ↔
        (Bindable.tryBind bag name value type).2 = .ok ()) := by
  unfold Bindable.bindQuietly
  obtain ⟨changed, outcome⟩ := Bindable.tryBind bag name value type
  cases outcome <;> simp

/-- A bag that holds values of the right types is a typed store. -/
theorem Holds.isTypedStore (holds : bag.Holds shape) : bag.IsTypedStore shape where
  declared := congrArg TypeShape.properties holds.shape_eq
  typed := holds.typed
  takes_iff := by
    intro name value type
    rw [snd_tryBind, holds.shape_eq, map_eq_ok_iff]
    simp only [TypeShape.taken_eq_ok_iff]
    simp
  stores := by
    intro name value type position converted declares converts
    have taken : bag.shape.taken name value type = .ok converted := by
      rw [holds.shape_eq]
      exact TypeShape.taken_eq_ok_iff.mpr ⟨⟨position, declares⟩, converts⟩
    have known : (bag.shape.declared? name).isSome := by
      rw [holds.shape_eq, TypeShape.declared?_eq_some_iff.mpr ⟨position, declares⟩]
      rfl
    simp only [tryBind_eq, taken]
    refine ⟨get?_put bag converted known, ?_⟩
    -- A position other than that of the first property of the name is not written to.
    intro place other
    rw [getElem?_put (holds.shape_eq ▸ declares), if_neg other.symm]
  refuses_iff := by
    intro name value type fault
    rw [snd_tryBind, holds.shape_eq, ← TypeShape.taken_eq_error_iff]
    cases shape.taken name value type <;> simp [Except.map]
  untouched := by
    intro name value type fault refused
    rw [tryBind_eq] at refused ⊢
    cases outcome : bag.shape.taken name value type with
    | ok converted =>
      -- A value that is taken is not refused.
      simp [outcome] at refused
    | error reason => rfl
  quietly := bindQuietly_eq bag

/-- A bag that was made for a shape is a typed store of this shape for good, whatever calls are made
in whatever order, and also if the shape has several properties of one name. -/
theorem isTypedStore_of_calls (shape : TypeShape) (calls : List BindCall) :
    (calls.foldl afterCall (ofShape shape)).IsTypedStore shape := by
  have kept (bag : Bag) (holds : bag.Holds shape) : (calls.foldl afterCall bag).Holds shape := by
    -- Each call is an offer, and an offer keeps to the shape and the types.
    induction calls generalizing bag with
    | nil => exact holds
    | cons call rest ih =>
      refine ih (bag.afterCall call) ?_
      cases call with
      | tried offer => exact holds.after offer
      | quiet offer =>
        have same := (bindQuietly_eq bag offer.name offer.value offer.type).1
        rw [afterCall, same]
        exact holds.after offer
  exact (kept (ofShape shape) (holds_ofShape shape)).isTypedStore

/-- Of two properties of one name, the second one is never set. -/
example : (Bindable.tryBind (ofShape ⟨"Popup", [⟨"Title", .text⟩, ⟨"Title", .integer⟩]⟩) "Title"
    (.integer 3) .integer).2 = .error (.typeMismatch .integer .text) := by
  decide

end Bag

end CallChain

import CallChain.Binding.Banner
import CallChain.Proofs.Binding.TypedStore
import CallChain.Proofs.Run.Diagnostics
import CallChain.Proofs.Run.Pairs
import Mathlib.Tactic.IntervalCases

/-! Structures with exposed fields: they answer offers as the bag does that has the same properties
in the same order, and a field with one name goes on holding what the bag holds. A field with
several names holds what was put in under the last of them. -/

namespace CallChain

namespace TypeShape

variable {shape other : TypeShape} {name : String}

/-- What is taken is decided by the properties of a shape, whatever the shape is called. -/
theorem taken_congr (same : shape.properties = other.properties) (name : String) (value : Value)
    (type : ValueType) : shape.taken name value type = other.taken name value type := by
  simp only [taken, declared?, same]

/-- What is declared is decided by the properties of a shape too. -/
theorem Declares.congr {position : Nat} {type : ValueType}
    (declares : shape.Declares name position type) (same : other.properties = shape.properties) :
    other.Declares name position type :=
  ⟨same ▸ declares.placed, same ▸ declares.first⟩

end TypeShape

namespace ExposedField

variable {σ : Type}

/-- The field holds what a value of its type stands for. -/
structure Holds (field : ExposedField σ) (state : σ) (value : Value) : Prop where
  typed : value.type = field.type
  stands : field.ofValue? value = some (field.get state)

/-- Plain data stands for one value, so a field of plain data holds that value and no other. -/
theorem holds_plain_iff {name : String} {type : ValueType} {get : σ → type.Carrier}
    {set : σ → type.Carrier → σ} {law : ∀ state data, get (set state data) = data} {state : σ}
    {value : Value} :
    (plain name type get set law).Holds state value ↔ value = .ofCarrier type (get state) := by
  constructor
  · rintro ⟨rfl, stands⟩
    -- A value of the right type is not changed by the conversion.
    have whole := Value.map_carrier? value value.type
    rw [show value.carrier? value.type = some (get state) from stands, Value.coerce?_type] at whole
    exact (Option.some.inj whole).symm
  · rintro rfl
    refine ⟨Value.type_ofCarrier type _, ?_⟩
    show (Value.ofCarrier type (get state)).carrier? type = some (get state)
    cases type <;> rfl

/-- A field of plain data has a use for every value of its type. -/
theorem isSome_ofValue?_plain {name : String} {type : ValueType} {get : σ → type.Carrier}
    {set : σ → type.Carrier → σ} {law : ∀ state data, get (set state data) = data} {value : Value}
    (typed : value.type = type) :
    ((plain name type get set law).ofValue? value).isSome = true := by
  subst typed
  show (value.carrier? value.type).isSome = true
  rw [Value.carrier?_isSome, ← Value.coerce?_isSome, Value.coerce?_type]
  rfl

end ExposedField

namespace Reflected

variable {σ : Type} [Reflected σ]

/-- What the objects of a structure are like: the names and types of the exposed fields. -/
def shape (σ : Type) [Reflected σ] : TypeShape :=
  ⟨Reflected.typeName σ,
    (Reflected.fields (σ := σ)).map fun field => ⟨field.name, field.type⟩⟩

/-- Each exposed field has a use for every value of the type of its property. -/
def TakesAll (σ : Type) [Reflected σ] : Prop :=
  ∀ field ∈ Reflected.fields (σ := σ), ∀ value : Value, value.type = field.type →
    (field.ofValue? value).isSome = true

/-- What is put into the field exposed at another place is nothing to this field. -/
def Apart (field : ExposedField σ) (place : Nat) : Prop :=
  ∀ other, (Reflected.fields (σ := σ))[place]? = some other →
    ∀ state data, field.get (other.set state data) = field.get state

/-- A field that is exposed under one name only: all other exposed fields are apart from it. -/
structure Own (position : Nat) (field : ExposedField σ) : Prop where
  placed : (Reflected.fields (σ := σ))[position]? = some field
  apart : ∀ place, place ≠ position → Apart field place

/-- The field holds what the bag holds at the position. -/
def HoldsAt (state : σ) (bag : Bag) (position : Nat) (field : ExposedField σ) : Prop :=
  ∃ value, bag.properties[position]? = some ⟨⟨field.name, field.type⟩, value⟩ ∧
    field.Holds state value

/-- A structure and a bag with the same properties that hold the same in every place. -/
structure Corresponds (state : σ) (bag : Bag) : Prop where
  shapes : bag.shape.properties = (shape σ).properties
  values : ∀ (position : Nat) (field : ExposedField σ),
    (Reflected.fields (σ := σ))[position]? = some field → HoldsAt state bag position field

/-- A bag that stands for a structure: it declares the names and types of the exposed fields in the
same order, and holds at the position of each field with one name what the field holds. -/
structure Mirrors (state : σ) (bag : Bag) : Prop where
  shapes : bag.shape.properties = (shape σ).properties
  values : ∀ (position : Nat) (field : ExposedField σ), Own position field →
    HoldsAt state bag position field

/-- An offer that is taken for the property at a position. -/
def TakenAt (σ : Type) [Reflected σ] (offer : Offer) (position : Nat) : Prop :=
  (shape σ).Declares offer.name position offer.type ∧
    ∃ converted, (shape σ).taken offer.name offer.value offer.type = .ok converted

/-- A field was set under the name at a position, and since then under none of its other names. -/
def LastSetAt (field : ExposedField σ) (position : Nat) (offers : List Offer) : Prop :=
  ∃ before offer later, offers = before ++ offer :: later ∧ TakenAt σ offer position ∧
    ∀ next ∈ later, ∀ place, TakenAt σ next place → place = position ∨ Apart field place

variable {name : String} {position : Nat} {type : ValueType}

/-- A declared property is one of the exposed fields. -/
theorem exists_field_of_declares (declares : (shape σ).Declares name position type) :
    ∃ field : ExposedField σ, (Reflected.fields (σ := σ))[position]? = some field ∧
      field.name = name ∧ field.type = type := by
  have placed := declares.placed
  rw [shape, List.getElem?_map] at placed
  obtain ⟨field, found, shaped⟩ := Option.map_eq_some_iff.mp placed
  cases shaped
  exact ⟨field, found, rfl, rfl⟩

/-- The search for a name comes to the first field that has it. -/
theorem find?_of_declares (declares : (shape σ).Declares name position type) (state : σ) :
    Bindable.find? state name = some ⟨position, type⟩ := by
  obtain ⟨field, placed, _, typed⟩ := exists_field_of_declares declares
  -- No field before this one has the name.
  have index : ((Reflected.fields (σ := σ)).findIdx fun field => field.name == name) =
      position := by
    have searched := declares.findIdx_eq
    rwa [shape, List.findIdx_map] at searched
  show find? state name = _
  rw [find?, index, placed, Option.map_some, typed]

/-- The search for a name that no field has comes to nothing. -/
theorem find?_of_absent (absent : ∀ property ∈ (shape σ).properties, property.name ≠ name)
    (state : σ) : Bindable.find? state name = none := by
  have passed : (Reflected.fields (σ := σ)).findIdx (fun field => field.name == name) =
      (Reflected.fields (σ := σ)).length := by
    rw [List.findIdx_eq_length]
    simpa [shape] using absent
  show find? state name = _
  rw [find?, passed]
  simp

/-- A value that is taken is put into the first field of the name, as the data it stands for. -/
theorem tryBind_of_taken (takes : TakesAll σ) {value converted : Value}
    (taken : (shape σ).taken name value type = .ok converted) (state : σ) :
    ∃ (position : Nat) (field : ExposedField σ) (data : field.Data),
      (shape σ).Declares name position type ∧
      (Reflected.fields (σ := σ))[position]? = some field ∧
      converted.type = field.type ∧ field.ofValue? converted = some data ∧
      Bindable.tryBind state name value type = (field.set state data, .ok ()) := by
  obtain ⟨⟨position, declares⟩, converts⟩ := TypeShape.taken_eq_ok_iff.mp taken
  obtain ⟨field, placed, rfl, rfl⟩ := exists_field_of_declares declares
  -- The value has been converted to the type of the field, so the field has a use for it.
  have typed := Value.type_of_coerce? converts
  have useful := takes field (List.mem_of_getElem? placed) converted typed
  obtain ⟨data, stands⟩ := Option.isSome_iff_exists.mp useful
  refine ⟨position, field, data, declares, placed, typed, stands, ?_⟩
  -- So it is set, whatever the structure held before.
  have assigned : Bindable.assign state (⟨position, field.type⟩ : PropertyKey) converted =
      (field.set state data, true) := by
    show Bindable.offered state (assign? state ⟨position, field.type⟩ converted) = _
    rw [assign?, placed, Option.bind_some, ExposedField.write?, stands]
    rfl
  rw [Bindable.tryBind, find?_of_declares declares]
  simp only [ne_eq, not_true_eq_false, if_false, converts, assigned]

/-- A value that is refused leaves the structure as it is. -/
theorem tryBind_of_refused {value : Value} {fault : BindFault}
    (refused : (shape σ).taken name value type = .error fault) (state : σ) :
    Bindable.tryBind state name value type = (state, .error fault) := by
  unfold Bindable.tryBind
  -- The field is missing, or it is of another type, or the value does not fit it.
  cases TypeShape.taken_eq_error_iff.mp refused with
  | missing absent => rw [find?_of_absent absent]
  | mistaken declares other => simp [find?_of_declares declares, other]
  | unfit declares unfit => simp [find?_of_declares declares, unfit]

variable {state : σ} {bag : Bag} {field : ExposedField σ} {offer : Offer}

/-- A bag goes on having the properties of a structure, whatever is offered to it. -/
theorem shapes_after (shapes : bag.shape.properties = (shape σ).properties) (offer : Offer) :
    (bag.after offer).shape.properties = (shape σ).properties := by
  rw [Bag.shape_after, shapes]

/-- A structure and a bag of the same properties answer an offer alike. -/
theorem answer_eq (takes : TakesAll σ) (shapes : bag.shape.properties = (shape σ).properties)
    (state : σ) (offer : Offer) :
    (Bindable.tryBind state offer.name offer.value offer.type).2 =
      (Bindable.tryBind bag offer.name offer.value offer.type).2 := by
  -- Whether the value is taken is decided by the names and types, which are the same.
  rw [Bag.tryBind_eq, TypeShape.taken_congr shapes]
  cases taken : (shape σ).taken offer.name offer.value offer.type with
  | error fault => rw [tryBind_of_refused taken]
  | ok converted =>
    obtain ⟨_, _, _, _, _, _, _, bound⟩ := tryBind_of_taken takes taken state
    rw [bound]

/-- A field that was just set holds what the bag was given in its place. -/
theorem holdsAt_of_takenAt (takes : TakesAll σ)
    (shapes : bag.shape.properties = (shape σ).properties)
    (own : (Reflected.fields (σ := σ))[position]? = some field) (state : σ)
    (taken : TakenAt σ offer position) :
    HoldsAt (Bindable.tryBind state offer.name offer.value offer.type).1 (bag.after offer)
      position field := by
  obtain ⟨declares, converted, accepted⟩ := taken
  obtain ⟨place, written, data, again, placed, typed, stands, bound⟩ :=
    tryBind_of_taken takes accepted state
  obtain rfl : place = position := again.findIdx_eq.symm.trans declares.findIdx_eq
  obtain rfl : written = field := Option.some.inj (placed.symm.trans own)
  obtain ⟨_, found, named, kind⟩ := exists_field_of_declares declares
  obtain rfl := Option.some.inj (placed.symm.trans found)
  rw [Bag.after_eq, TypeShape.taken_congr shapes, accepted, bound]
  -- The field reads back the data that the value stands for.
  refine ⟨converted, ?_, typed, ?_⟩
  · rw [named, kind]
    exact (Bag.getElem?_put (declares.congr shapes) converted place).trans (if_pos rfl)
  · rw [written.get_set]
    exact stands

/-- A field goes on holding what the bag holds when an offer is not taken under another of its
names. -/
theorem HoldsAt.tryBind (holds : HoldsAt state bag position field) (takes : TakesAll σ)
    (shapes : bag.shape.properties = (shape σ).properties)
    (own : (Reflected.fields (σ := σ))[position]? = some field)
    (left : ∀ place, TakenAt σ offer place → place = position ∨ Apart field place) :
    HoldsAt (Bindable.tryBind state offer.name offer.value offer.type).1 (bag.after offer)
      position field := by
  cases taken : (shape σ).taken offer.name offer.value offer.type with
  | error fault =>
    -- Neither the structure nor the bag is changed.
    rw [tryBind_of_refused taken, Bag.after_eq, TypeShape.taken_congr shapes, taken]
    exact holds
  | ok converted =>
    obtain ⟨place, other, data, declares, placed, _, _, bound⟩ := tryBind_of_taken takes taken state
    have here : TakenAt σ offer place := ⟨declares, converted, taken⟩
    by_cases same : place = position
    · subst same
      exact holdsAt_of_takenAt takes shapes own state here
    · -- Neither the field nor its place in the bag is written to.
      have apart : Apart field place := (left place here).resolve_left same
      obtain ⟨value, held, typed, stands⟩ := holds
      have put := Bag.getElem?_put (declares.congr shapes) converted position
      rw [Bag.after_eq, TypeShape.taken_congr shapes, taken, bound]
      refine ⟨value, ?_, typed, ?_⟩
      · exact (put.trans (if_neg same)).trans held
      · rw [apart other placed]
        exact stands

/-- A field goes on holding what the bag holds as long as no offer is taken under another of its
names. -/
theorem HoldsAt.offerAll {offers : List Offer} (holds : HoldsAt state bag position field)
    (takes : TakesAll σ) (shapes : bag.shape.properties = (shape σ).properties)
    (own : (Reflected.fields (σ := σ))[position]? = some field)
    (left : ∀ next ∈ offers, ∀ place, TakenAt σ next place →
      place = position ∨ Apart field place) :
    HoldsAt (Bindable.offerAll state offers).1 (Bindable.offerAll bag offers).1
      position field := by
  induction offers generalizing state bag with
  | nil => exact holds
  | cons offer rest ih =>
    have first := holds.tryBind takes shapes own (left offer (by simp))
    exact ih first (shapes_after shapes offer) fun next member => left next (by simp [member])

/-- A field holds what the bag holds in the place of the name that the field was last set under. -/
theorem holdsAt_of_lastSetAt {offers : List Offer} (last : LastSetAt field position offers)
    (takes : TakesAll σ) (shapes : bag.shape.properties = (shape σ).properties)
    (own : (Reflected.fields (σ := σ))[position]? = some field) :
    HoldsAt (Bindable.offerAll state offers).1 (Bindable.offerAll bag offers).1
      position field := by
  obtain ⟨before, offer, later, rfl, taken, left⟩ := last
  -- Whatever came before is of no account, and nothing that comes later touches the field.
  induction before generalizing state bag with
  | nil =>
    have first := holdsAt_of_takenAt takes shapes own state taken
    exact first.offerAll takes (shapes_after shapes offer) own left
  | cons early rest ih => exact ih (shapes_after shapes early)

/-- A structure and the bag that stands for it answer an offer alike, and the bag still stands for
the structure after it. -/
theorem Mirrors.tryBind (mirrors : Mirrors state bag) (takes : TakesAll σ) (offer : Offer) :
    (Bindable.tryBind state offer.name offer.value offer.type).2 =
        (Bindable.tryBind bag offer.name offer.value offer.type).2 ∧
      Mirrors (Bindable.tryBind state offer.name offer.value offer.type).1 (bag.after offer) := by
  refine ⟨answer_eq takes mirrors.shapes state offer, shapes_after mirrors.shapes offer, ?_⟩
  intro position field own
  -- A field with one name is only set under that one.
  have left : ∀ place, TakenAt σ offer place → place = position ∨ Apart field place := by
    intro place _
    by_cases same : place = position
    · exact .inl same
    · exact .inr (own.apart place same)
  exact (mirrors.values position field own).tryBind takes mirrors.shapes own.placed left

/-- A bag that holds the same as a structure in every place stands for it. -/
theorem Corresponds.mirrors (corresponds : Corresponds state bag) : Mirrors state bag :=
  ⟨corresponds.shapes, fun position field own => corresponds.values position field own.placed⟩

/-- A new bag holds the same as a structure with all fields at zero, whatever the bag's type is
called. -/
theorem corresponds_ofShape {state : σ} (zero : ∀ field ∈ Reflected.fields (σ := σ),
      field.Holds state (.zero field.type)) (typeName : String) :
    Corresponds state (.ofShape ⟨typeName, (shape σ).properties⟩) where
  shapes := by rw [Bag.shape_ofShape]
  values := by
    intro position field placed
    refine ⟨.zero field.type, ?_, zero field (List.mem_of_getElem? placed)⟩
    simp [Bag.ofShape, shape, placed]

/-- A structure is as good as the bag that stands for it, if its fields take all values of their
types. Whatever is offered to them in turn, they answer alike, and each field that is exposed under
one name holds in the end what the bag holds in its place. A field that is exposed under several
names holds what the bag holds in the place of the one it was set under last. And any plan comes out
alike with objects of the structure and with bags that stand for them, and what it leaves of them
has come from such pairs by the same offers. -/
theorem binds_like_bag (takes : TakesAll σ) (mirrors : Mirrors state bag) (offers : List Offer) :
    (Bindable.offerAll state offers).2 = (Bindable.offerAll bag offers).2 ∧
      Mirrors (Bindable.offerAll state offers).1 (Bindable.offerAll bag offers).1 ∧
      (∀ (position : Nat) (field : ExposedField σ),
        (Reflected.fields (σ := σ))[position]? = some field → LastSetAt field position offers →
        HoldsAt (Bindable.offerAll state offers).1 (Bindable.offerAll bag offers).1
          position field) ∧
      ∀ paired : σ → Bag → Prop, (∀ state bag, paired state bag → Mirrors state bag) →
        ∀ (setting : RunSetting) (structures : Manager σ) (bags : Manager Bag),
          Manager.Paired paired structures bags →
            (setting.run structures).result.map RunReport.untyped =
                (setting.run bags).result.map RunReport.untyped ∧
              Manager.Paired (Bindable.Offered paired) (setting.run structures).manager
                (setting.run bags).manager ∧
              (setting.run structures).notices = (setting.run bags).notices := by
  -- One offer keeps the pair, and so do many, and so do the steps of a plan.
  have keeps : Bindable.KeepsPairs (Mirrors : σ → Bag → Prop) := by
    intro state bag mirrors name value type
    exact mirrors.tryBind takes ⟨name, value, type⟩
  obtain ⟨answers, last⟩ := keeps.offerAll mirrors offers
  refine ⟨answers, last, ?_, ?_⟩
  · intro position field placed set
    exact holdsAt_of_lastSetAt set takes mirrors.shapes placed
  · intro paired within setting structures bags pairs
    exact setting.paired_run (keeps.offered within) (pairs.mono Bindable.Offered.of_paired)

/-- All exposed fields are of plain data, which is zero in this structure. -/
def PlainAtZero (state : σ) : Prop :=
  ∀ field ∈ Reflected.fields (σ := σ), ∃ name type get set law,
    field = .plain name type get set law ∧ .zero type = Value.ofCarrier type (get state)

/-- Fields of plain data take all values of their types. -/
theorem PlainAtZero.takesAll (plain : PlainAtZero state) : TakesAll σ := by
  intro field member value typed
  obtain ⟨name, type, get, set, law, rfl, _⟩ := plain field member
  exact ExposedField.isSome_ofValue?_plain typed

/-- A new bag holds the same as a structure of plain data at zero. -/
theorem PlainAtZero.corresponds (plain : PlainAtZero state) (typeName : String) :
    Corresponds state (.ofShape ⟨typeName, (shape σ).properties⟩) := by
  refine corresponds_ofShape ?_ typeName
  intro field member
  obtain ⟨name, type, get, set, law, rfl, zero⟩ := plain field member
  exact ExposedField.holds_plain_iff.mpr zero

/-- A new banner is made of plain data at zero. -/
theorem plainAtZero_banner : PlainAtZero Banner.zero := by
  intro field member
  simp only [Reflected.fields, List.mem_cons, List.not_mem_nil, or_false] at member
  rcases member with rfl | rfl | rfl | rfl | rfl | rfl <;> exact ⟨_, _, _, _, _, rfl, rfl⟩

/-- A banner exposes each of its fields once. -/
theorem own_of_banner {position : Nat} {field : ExposedField Banner}
    (placed : (Reflected.fields (σ := Banner))[position]? = some field) : Own position field := by
  refine ⟨placed, ?_⟩
  intro place away other found
  obtain ⟨inside, rfl⟩ := List.getElem?_eq_some_iff.mp placed
  obtain ⟨within, rfl⟩ := List.getElem?_eq_some_iff.mp found
  have few : (Reflected.fields (σ := Banner)).length = 6 := rfl
  rw [few] at inside within
  -- Each of the six fields is left alone by the five others.
  interval_cases position <;> interval_cases place <;>
    first
    | exact absurd rfl away
    | exact fun _ _ => rfl

/-- A label whose text is exposed under two names. -/
structure Label where
  text : String

instance : Reflected Label where
  typeName := "Label"
  fields :=
    [.plain "Title" .string Label.text fun label text => { label with text },
      .plain "Caption" .string Label.text fun label text => { label with text }]

/-- A new label is made of plain data at zero. -/
theorem plainAtZero_label : PlainAtZero (⟨""⟩ : Label) := by
  intro field member
  simp only [Reflected.fields, List.mem_cons, List.not_mem_nil, or_false] at member
  rcases member with rfl | rfl <;> exact ⟨_, _, _, _, _, rfl, rfl⟩

/-- A gauge with a level of a type of its own, which no number above one hundred stands for. -/
structure Gauge where
  level : Int64

instance : Reflected Gauge where
  typeName := "Gauge"
  fields :=
    [{ name := "Level"
       type := .integer
       Data := Int64
       ofValue? := fun
        | .integer level => if level ≤ 100 then some level else none
        | _ => none
       get := Gauge.level
       set := fun gauge level => { gauge with level } }]

/-- The fields of a label and of a gauge are not what bags have in their place. A label is captioned
when it is given a title, and the bag is not. A gauge refuses a level that the bag takes. -/
theorem not_forall_structures_bind_like_bags :
    (¬ ∀ (σ : Type) [Reflected σ], TakesAll σ → ∀ (state : σ) (bag : Bag) (offers : List Offer),
      Corresponds state bag →
        Corresponds (Bindable.offerAll state offers).1 (Bindable.offerAll bag offers).1) ∧
    ¬ ∀ (σ : Type) [Reflected σ] (state : σ) (bag : Bag) (offers : List Offer),
      Corresponds state bag →
        (Bindable.offerAll state offers).2 = (Bindable.offerAll bag offers).2 := by
  constructor
  · intro claim
    have start := plainAtZero_label.corresponds "Label"
    have ended :=
      claim Label plainAtZero_label.takesAll _ _ [⟨"Title", .string "Saved", .string⟩] start
    -- The field is the same under both names, and so it holds the title.
    obtain ⟨value, held, holds⟩ := ended.values 1 _ rfl
    obtain rfl : value = .string "Saved" := ExposedField.holds_plain_iff.mp holds
    revert held
    decide +kernel
  · intro claim
    have start : Corresponds (⟨0⟩ : Gauge) (.ofShape ⟨"Gauge", (shape Gauge).properties⟩) := by
      refine corresponds_ofShape ?_ "Gauge"
      intro field member
      obtain rfl := List.mem_singleton.mp member
      exact ⟨rfl, rfl⟩
    have same := claim Gauge _ _ [⟨"Level", .integer 200, .integer⟩] start
    revert same
    decide +kernel

/-- A label that was given a title and then a caption was set last under the second name. -/
theorem lastSetAt_caption : LastSetAt (σ := Label)
    (.plain "Caption" .string Label.text fun label text => { label with text }) 1
    [⟨"Title", .string "Saved", .string⟩, ⟨"Caption", .string "Done", .string⟩] := by
  refine ⟨[⟨"Title", .string "Saved", .string⟩], ⟨"Caption", .string "Done", .string⟩, [], rfl,
    ⟨⟨rfl, ?_⟩, _, rfl⟩, by simp⟩
  -- The only property before the caption is the title.
  intro earlier before property placed
  obtain rfl : earlier = 0 := by omega
  obtain rfl := Option.some.inj placed
  decide

/-- A new banner and a new popup of the same properties take and refuse the same, hold the same
width after it, and are set alike by a plan. A label holds its caption, which it was given last. -/
theorem binds_like_bag_banner :
    let popup := Bag.ofShape ⟨"Popup", (shape Banner).properties⟩
    let offers : List Offer := [⟨"Width", .integer 200, .float⟩, ⟨"Body", .string "Saved", .string⟩,
      ⟨"Subtitle", .text "Saved", .text⟩]
    let banner := (Bindable.offerAll Banner.zero offers).1
    let setting : RunSetting := ⟨Plan.hopeful, .empty, .invalid, true⟩
    let key : ItemKey := ⟨"panel", "first"⟩
    let card := Bag.ofShape ⟨"Card", (shape Label).properties⟩
    let texts : List Offer := [⟨"Title", .string "Saved", .string⟩,
      ⟨"Caption", .string "Done", .string⟩]
    TakesAll Banner ∧ Mirrors Banner.zero popup ∧
      (Bindable.offerAll Banner.zero offers).2 =
        [.ok (), .error (.typeMismatch .string .text), .error .missingProperty] ∧
      (Bindable.offerAll popup offers).2 = (Bindable.offerAll Banner.zero offers).2 ∧
      banner.entries = [("Title", .string ""), ("Body", .text ""), ("Count", .integer 0),
        ("Width", .float (.ofInt 200)), ("Visible", .bool false), ("Icon", .object .invalid)] ∧
      (Bindable.offerAll popup offers).1.properties[3]? =
        some ⟨⟨"Width", .float⟩, .float banner.width⟩ ∧
      (setting.run (Manager.empty.register key Banner.zero)).result.map RunReport.untyped =
        (setting.run (Manager.empty.register key popup)).result.map RunReport.untyped ∧
      (Bindable.offerAll (⟨""⟩ : Label) texts).1.text = "Done" ∧
      (Bindable.offerAll card texts).1.properties[1]? =
        some ⟨⟨"Caption", .string⟩, .string (Bindable.offerAll (⟨""⟩ : Label) texts).1.text⟩ := by
  intro popup offers banner setting key card texts
  have takes : TakesAll Banner := plainAtZero_banner.takesAll
  have mirrors : Mirrors Banner.zero popup := (plainAtZero_banner.corresponds "Popup").mirrors
  obtain ⟨answers, last, _, runs⟩ := binds_like_bag takes mirrors offers
  have pairs : Manager.Paired Mirrors (Manager.empty.register key Banner.zero)
      (Manager.empty.register key popup) :=
    ⟨.cons ⟨rfl, mirrors⟩ .nil, .nil, rfl, rfl⟩
  -- The width is the fourth field, and plain data.
  obtain ⟨width, wide, widens⟩ := last.values 3 _ (own_of_banner rfl)
  obtain rfl := ExposedField.holds_plain_iff.mp widens
  -- The caption is the second name of the one field.
  have labelled : Mirrors (⟨""⟩ : Label) card := (plainAtZero_label.corresponds "Card").mirrors
  obtain ⟨_, _, renamed, _⟩ := binds_like_bag plainAtZero_label.takesAll labelled texts
  obtain ⟨caption, captioned, captions⟩ := renamed 1 _ rfl lastSetAt_caption
  obtain rfl := ExposedField.holds_plain_iff.mp captions
  exact ⟨takes, mirrors, by decide +kernel, answers.symm, by decide +kernel, wide,
    (runs Mirrors (fun _ _ mirrors => mirrors) setting _ _ pairs).1, rfl, captioned⟩

end Reflected

end CallChain

import CallChain.Binding.Target

/-! Structures that expose some of their fields as properties. -/

namespace CallChain

/-- A field exposed under a name. The type of its property says which values it is offered, and the
data it holds is made of them in a way of its own. -/
structure ExposedField (σ : Type) where
  name : String
  type : ValueType
  Data : Type
  /-- The data that a value stands for, unless the field has no use for the value. -/
  ofValue? : Value → Option Data
  get : σ → Data
  set : σ → Data → σ
  /-- The field holds what was put into it. -/
  get_set : ∀ state data, get (set state data) = data := by intro _ _; rfl

namespace ExposedField

variable {σ : Type}

/-- A field of plain data, which it takes from any value that can be converted to the type of its
property. -/
def plain (name : String) (type : ValueType) (get : σ → type.Carrier)
    (set : σ → type.Carrier → σ)
    (get_set : ∀ state data, get (set state data) = data := by intro _ _; rfl) : ExposedField σ :=
  ⟨name, type, type.Carrier, fun value => value.carrier? type, get, set, get_set⟩

/-- The structure with the field set to what a value stands for. -/
def write? (field : ExposedField σ) (state : σ) (value : Value) : Option σ :=
  (field.ofValue? value).map (field.set state)

end ExposedField

/-- Structures with exposed fields. -/
class Reflected (σ : Type) where
  /-- The name of the structure. -/
  typeName : String
  /-- The exposed fields, in order. -/
  fields : List (ExposedField σ)

namespace Reflected

variable {σ : Type} [Reflected σ]

/-- The first field of a name. -/
def find? (_ : σ) (name : String) : Option PropertyKey :=
  let fields := Reflected.fields (σ := σ)
  let index := fields.findIdx fun field => field.name == name
  (fields[index]?).map fun field => ⟨index, field.type⟩

/-- Sets the field at the position of a property, whatever type the property claims to have. -/
def assign? (state : σ) (property : PropertyKey) (value : Value) : Option σ :=
  ((Reflected.fields (σ := σ))[property.index]?).bind fun field => field.write? state value

instance : Bindable σ where
  typeName _ := Reflected.typeName σ
  find? := find?
  assign state property value := Bindable.offered state (assign? state property value)

end Reflected

end CallChain

import CallChain.Binding.Target
import CallChain.Json.Fields
import CallChain.Value.Json

/-! Property bags: objects whose type is described while the program runs. -/

namespace CallChain

/-- The name and type of a property. -/
structure PropertyShape where
  name : String
  type : ValueType
deriving DecidableEq, Repr

/-- The description of an object type. -/
structure TypeShape where
  name : String
  properties : List PropertyShape
deriving DecidableEq, Repr

namespace PropertyShape

/-- Reads the description of a property. -/
def ofJson : Json.Decoder PropertyShape := fun json => do
  let found ← Json.record (["name", "kind"].map Json.Field.plain) json
  let name ← found.required "name" Json.text
  let type ← found.required "kind" ValueType.ofJson
  return ⟨name, type⟩

end PropertyShape

namespace TypeShape

/-- Reads the description of a type. -/
def ofJson : Json.Decoder TypeShape := fun json => do
  let found ← Json.record (["name", "properties"].map Json.Field.plain) json
  let name ← found.required "name" Json.text
  let properties ← found.required "properties" (Json.list PropertyShape.ofJson)
  return ⟨name, properties⟩

end TypeShape

/-- A declared property with the value it holds. -/
structure Property where
  shape : PropertyShape
  value : Value
deriving DecidableEq, Repr

/-- An object that holds one value for each declared property. -/
structure Bag where
  typeName : String
  properties : List Property
deriving DecidableEq, Repr

namespace Bag

/-- The object of a described type with every property at zero. -/
def ofShape (shape : TypeShape) : Bag :=
  ⟨shape.name, shape.properties.map fun property => ⟨property, .zero property.type⟩⟩

/-- The value of the first property of a name. -/
def get? (bag : Bag) (name : String) : Option Value :=
  (bag.properties.find? fun property => property.shape.name == name).map Property.value

/-- The names and values of all properties, in order. -/
def entries (bag : Bag) : List (String × Value) :=
  bag.properties.map fun property => (property.shape.name, property.value)

/-- The first property of a name. -/
def find? (bag : Bag) (name : String) : Option PropertyKey :=
  let index := bag.properties.findIdx fun property => property.shape.name == name
  (bag.properties[index]?).map fun property => ⟨index, property.shape.type⟩

/-- Sets a property to a value of exactly its type. -/
def assign? (bag : Bag) (property : PropertyKey) (value : Value) : Option Bag :=
  match bag.properties[property.index]? with
  | none => none
  | some declared =>
    if declared.shape.type = property.type ∧ value.type = declared.shape.type then
      some { bag with properties := bag.properties.set property.index { declared with value } }
    else none

instance : Bindable Bag where
  typeName := typeName
  find? := find?
  assign bag property value := Bindable.offered bag (bag.assign? property value)

end Bag

/-- An object that shows the properties of a bag and refuses every value. -/
structure SealedBag where
  bag : Bag
deriving DecidableEq, Repr

namespace SealedBag

instance : Bindable SealedBag where
  typeName sealedBag := sealedBag.bag.typeName
  find? sealedBag := sealedBag.bag.find?
  assign sealedBag _ _ := (sealedBag, false)

end SealedBag

end CallChain

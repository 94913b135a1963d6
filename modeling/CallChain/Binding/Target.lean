import CallChain.Notice
import CallChain.Value

/-! Setting properties by name on objects whose shape is not known beforehand. -/

namespace CallChain

/-- A property that an object offers: its position and its type. -/
structure PropertyKey where
  index : Nat
  type : ValueType
deriving DecidableEq, Repr

/-- Objects with properties that can be looked up by name and set. -/
class Bindable (α : Type) where
  /-- The name of the object's type. -/
  typeName : α → String
  /-- The property of a name, if the object has it. -/
  find? : α → String → Option PropertyKey
  /-- The object after it was offered a value for a property, and whether it took the value.
  An object may change although it refuses. -/
  assign : α → PropertyKey → Value → α × Bool

/-- Why a property was not set. -/
inductive BindFault where
  | missingProperty
  | typeMismatch (expected found : ValueType)
  /-- The object has the property and refuses the value. -/
  | rejected
deriving DecidableEq, Repr

namespace BindFault

/-- The fault spelled out for diagnostics. -/
def diagnostic : BindFault → String
  | missingProperty => "MissingProperty"
  | typeMismatch expected found =>
    s!"TypeMismatch \x7b expected: {expected.name}, found: {found.name} \x7d"
  | rejected => "Rejected"

end BindFault

namespace Bindable

variable {α : Type}

/-- An offer to an object that stays as it is when it refuses. -/
def offered (target : α) : Option α → α × Bool
  | some changed => (changed, true)
  | none => (target, false)

variable [Bindable α]

/-- The object with a property set, unless it refuses the value. -/
def assign? (target : α) (property : PropertyKey) (value : Value) : Option α :=
  match assign target property value with
  | (changed, true) => some changed
  | (_, false) => none

/-- Offers a value to the named property of an object.

The property has to have exactly the requested type, and the value is converted to it first. -/
def tryBind (target : α) (name : String) (value : Value) (requested : ValueType) :
    α × Except BindFault Unit :=
  match find? target name with
  | none => (target, .error .missingProperty)
  | some property =>
    if property.type ≠ requested then (target, .error (.typeMismatch requested property.type))
    else
      match value.coerce? requested with
      | none => (target, .error (.typeMismatch requested value.type))
      | some converted =>
        match assign target property converted with
        | (changed, true) => (changed, .ok ())
        | (changed, false) => (changed, .error .rejected)

/-- The object with the named property set to a value. -/
def bind (target : α) (name : String) (value : Value) (requested : ValueType) :
    Except BindFault α :=
  match tryBind target name value requested with
  | (changed, .ok ()) => .ok changed
  | (_, .error fault) => .error fault

/-- Sets a property if that is possible, and logs it if it is not. -/
def bindQuietly (target : α) (name : String) (value : Value) (requested : ValueType) :
    α × Bool × List Notice :=
  match tryBind target name value requested with
  | (changed, .ok ()) => (changed, true, [])
  | (changed, .error fault) =>
    let text := s!"Unbound property '{name}' on {typeName changed}: {fault.diagnostic}"
    (changed, false, [⟨.trace, text⟩])

end Bindable

end CallChain

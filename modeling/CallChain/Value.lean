import CallChain.Number.Form
import CallChain.ValueType
import CallChain.Text.Quoted

/-! Values: what literals, outputs and properties hold. -/

namespace CallChain

/-- A reference to an object of a manager, which may refer to nothing. -/
structure Handle where
  raw : Option UInt64
deriving DecidableEq, Repr, Inhabited

namespace Handle

/-- The handle that refers to nothing. -/
def invalid : Handle := ⟨none⟩

/-- Whether the handle claims to refer to an object. -/
def isValid (handle : Handle) : Bool :=
  handle.raw.isSome

/-- A handle as shown to authors. -/
def display (handle : Handle) : String :=
  match handle.raw with
  | some raw => s!"#{raw.toNat}"
  | none => "<invalid>"

end Handle

/-- A literal or a value at run time. -/
inductive Value where
  | bool (value : Bool)
  | integer (value : Int64)
  | float (value : Binary64)
  | string (value : String)
  | text (value : String)
  | object (value : Handle)
deriving DecidableEq, Repr, Inhabited

namespace Value

/-- The type a value belongs to. -/
def type : Value → ValueType
  | bool _ => .boolean
  | integer _ => .integer
  | float _ => .float
  | string _ => .string
  | text _ => .text
  | object _ => .object

/-- The value a parameter has when nothing else gives it one. -/
def zero : ValueType → Value
  | .boolean => bool false
  | .integer => integer 0
  | .float => float Binary64.zero
  | .string => string ""
  | .text => text ""
  | .object => object Handle.invalid

/-- The value as one of type `target`, which exists exactly when `target` accepts its type. -/
def coerce? (value : Value) (target : ValueType) : Option Value :=
  if value.type = target then some value
  else
    match value, target with
    | integer i, .float => some (float (Binary64.ofInt i.toInt))
    | _, _ => none

/-- Equality as numbers and texts: no NaN equals itself, and the two float zeros are equal. -/
def agrees : Value → Value → Bool
  | float x, float y => x.agrees y
  | x, y => x == y

/-- The word for a truth value. -/
def truth : Bool → String
  | true => "true"
  | false => "false"

/-- A value as shown to authors. -/
def display : Value → String
  | bool b => truth b
  | integer i => toString i.toInt
  | float x => x.display
  | string s => "\"" ++ s ++ "\""
  | text s => "t\"" ++ s ++ "\""
  | object handle => handle.display

/-- A value spelled out for diagnostics, constructor and all. -/
def diagnostic : Value → String
  | bool b => s!"Bool({truth b})"
  | integer i => s!"Integer({i.toInt})"
  | float x => s!"Float({x.write .diagnostic})"
  | string s => s!"String({Text.quote s})"
  | text s => s!"Text({Text.quote s})"
  | object ⟨some raw⟩ => s!"Object(ObjectHandle(Some({raw.toNat})))"
  | object ⟨none⟩ => "Object(ObjectHandle(None))"

end Value

/-- The data a property of the given type holds. -/
abbrev ValueType.Carrier : ValueType → Type
  | boolean => Bool
  | integer => Int64
  | float => Binary64
  | string => String
  | text => String
  | object => Handle

namespace Value

/-- The data of a value that is already of the given type. -/
def data? : Value → (type : ValueType) → Option type.Carrier
  | bool b, .boolean => some b
  | integer i, .integer => some i
  | float x, .float => some x
  | string s, .string => some s
  | text s, .text => some s
  | object handle, .object => some handle
  | _, _ => none

/-- The data of a value once it is converted to the given type, if it can be. -/
def carrier? (value : Value) (type : ValueType) : Option type.Carrier :=
  (value.coerce? type).bind fun converted => converted.data? type

/-- The value that holds the given data. -/
def ofCarrier : (type : ValueType) → type.Carrier → Value
  | .boolean, b => bool b
  | .integer, i => integer i
  | .float, x => float x
  | .string, s => string s
  | .text, s => text s
  | .object, handle => object handle

end Value

end CallChain

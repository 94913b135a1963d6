import CallChain.Json.Fields
import CallChain.Value

/-! Values as JSON: an object whose one member names the kind of value. -/

namespace CallChain

namespace Json

/-- A natural number of 32 bits as JSON. -/
def ofWord32 (n : UInt32) : Json :=
  .number (.natural (UInt64.ofNat n.toNat))

/-- An integer of 64 bits as JSON. -/
def ofInt64 (i : Int64) : Json :=
  if 0 ≤ i.toInt then .number (.natural (UInt64.ofNat i.toInt.toNat)) else .number (.negative i)

/-- Data that may be absent as JSON. -/
def ofOption {α : Type} (toJson : α → Json) : Option α → Json
  | none => .null
  | some a => toJson a

end Json

namespace Handle

/-- A handle as JSON: its number, or null. -/
def toJson (handle : Handle) : Json :=
  Json.ofOption (fun raw => .number (.natural raw)) handle.raw

/-- Reads a handle. -/
def ofJson : Json.Decoder Handle := fun json =>
  (Json.nullable Json.word64 json).map Handle.mk

end Handle

namespace ValueType

/-- Reads a type by its name. -/
def ofJson : Json.Decoder ValueType :=
  Json.named ofName?

end ValueType

namespace Value

/-- A value as JSON. -/
def toJson : Value → Json
  | bool b => .object [("Bool", .bool b)]
  | integer i => .object [("Integer", Json.ofInt64 i)]
  | float x => .object [("Float", .number (.float x))]
  | string s => .object [("String", .string s)]
  | text s => .object [("Text", .string s)]
  | object handle => .object [("Object", handle.toJson)]

/-- Reads a value. -/
def ofJson : Json.Decoder Value := fun json => do
  match ← Json.tagged json with
  | .holding "Bool" content => return bool (← Json.boolean content)
  | .holding "Integer" content => return integer (← Json.int64 content)
  | .holding "Float" content => return float (← Json.binary64 content)
  | .holding "String" content => return string (← Json.text content)
  | .holding "Text" content => return text (← Json.text content)
  | .holding "Object" content => return object (← Handle.ofJson content)
  | _ => throw (.expected "a value")

end Value

end CallChain

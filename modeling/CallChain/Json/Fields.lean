import CallChain.Json.Syntax

/-! Reading typed data out of syntax trees. -/

namespace CallChain.Json

/-- Why a text holds no data of the wanted type. -/
inductive Fault where
  /-- The text is no JSON text. -/
  | malformed
  /-- A value is of another kind. -/
  | expected (what : String)
  /-- A record lacks a field. -/
  | missing (field : String)
  /-- A record names a field twice. -/
  | repeated (field : String)
  /-- A value without meaning, or nested too deep. -/
  | unreadable
deriving DecidableEq, Repr

namespace Fault

/-- The fault in words. -/
def message : Fault → String
  | malformed => "not a JSON text"
  | expected what => s!"expected {what}"
  | missing field => s!"missing field `{field}`"
  | repeated field => s!"duplicate field `{field}`"
  | unreadable => "a value out of range or nested too deep"

end Fault

/-- A way to read data of one type out of a tree. -/
abbrev Decoder (α : Type) := Json → Except Fault α

/-- A field of a record. -/
structure Field where
  name : String
  /-- Another name the field may have. -/
  otherName : Option String := none
  /-- Whether a record written as a list may end before this field. -/
  mayBeCut : Bool := false

namespace Field

/-- A field with one name that has to be there. -/
def plain (name : String) : Field := { name }

end Field

/-- The fields found in a record, under their own names. -/
abbrev Record := List (String × Json)

/-- The field a member belongs to. -/
def fieldOf? (fields : List Field) (name : String) : Option Field :=
  fields.find? fun field => field.name == name || field.otherName == some name

/-- Collects the members that are fields; others are passed over. -/
def collectFields (fields : List Field) : (members : List (String × Json)) → (found : Record) →
    Except Fault Record
  | [], found => .ok found
  | (name, content) :: rest, found =>
    match fieldOf? fields name with
    | none => collectFields fields rest found
    | some field =>
      if found.any (·.1 == field.name) then .error (.repeated field.name)
      else collectFields fields rest (found ++ [(field.name, content)])

/-- Pairs the items of a list with the fields in order, all of which have to be there. -/
def pairFields : (fields : List Field) → (items : List Json) → Except Fault Record
  | [], [] => .ok []
  | [], _ :: _ => .error (.expected "fewer items")
  | field :: fields, [] =>
    if field.mayBeCut then pairFields fields [] else .error (.missing field.name)
  | field :: fields, item :: items =>
    (pairFields fields items).map ((field.name, item) :: ·)

/-- A record, written as an object or as the list of its fields. -/
def record (fields : List Field) : Decoder Record
  | object members => collectFields fields members []
  | array items => pairFields fields items
  | _ => .error (.expected "a record")

namespace Record

/-- The content of a field, if the record has it. -/
def find? (found : Record) (name : String) : Option Json :=
  (List.find? (fun field => field.1 == name) found).map Prod.snd

/-- The data of a field that has to be there. -/
def required {α : Type} (found : Record) (name : String) (decoder : Decoder α) : Except Fault α :=
  match found.find? name with
  | some content => decoder content
  | none => .error (.missing name)

/-- The data of a field with a value for its absence. -/
def orElse {α : Type} (found : Record) (name : String) (absent : α) (decoder : Decoder α) :
    Except Fault α :=
  match found.find? name with
  | some content => decoder content
  | none => .ok absent

end Record

/-- Data that may be null. -/
def nullable {α : Type} (decoder : Decoder α) : Decoder (Option α)
  | null => .ok none
  | content => (decoder content).map some

namespace Record

/-- The data of a field that may be null or absent, which mean the same. -/
def optional {α : Type} (found : Record) (name : String) (decoder : Decoder α) :
    Except Fault (Option α) :=
  found.orElse name none (nullable decoder)

end Record

/-- A list of data of one type. -/
def list {α : Type} (decoder : Decoder α) : Decoder (List α)
  | array items => items.mapM decoder
  | _ => .error (.expected "a list")

/-- A truth value. -/
def boolean : Decoder Bool
  | bool value => .ok value
  | _ => .error (.expected "a truth value")

/-- A text. -/
def text : Decoder String
  | string value => .ok value
  | _ => .error (.expected "a text")

/-- A natural number of 32 bits. -/
def word32 : Decoder UInt32
  | number (.natural value) =>
    if value.toNat < UInt32.size then .ok (UInt32.ofNat value.toNat)
    else .error (.expected "a natural number of 32 bits")
  | _ => .error (.expected "a natural number of 32 bits")

/-- A natural number of 64 bits. -/
def word64 : Decoder UInt64
  | number (.natural value) => .ok value
  | _ => .error (.expected "a natural number of 64 bits")

/-- An integer of 64 bits. -/
def int64 : Decoder Int64
  | number (.natural value) =>
    if value.toNat < firstTooLarge then .ok (Int64.ofNat value.toNat)
    else .error (.expected "an integer of 64 bits")
  | number (.negative value) => .ok value
  | _ => .error (.expected "an integer of 64 bits")

/-- A floating-point number, which may be written as an integer. -/
def binary64 : Decoder Binary64
  | number (.natural value) => .ok (Binary64.ofNat value.toNat)
  | number (.negative value) => .ok (Binary64.ofInt value.toInt)
  | number (.float value) => .ok value
  | _ => .error (.expected "a number")

/-- A name with a content: a bare name, or an object with one member. -/
inductive Tagged where
  | bare (tag : String)
  | holding (tag : String) (content : Json)

/-- One of several alternatives, chosen by name. -/
def tagged : Decoder Tagged
  | string tag => .ok (.bare tag)
  | object [(tag, content)] => .ok (.holding tag content)
  | _ => .error (.expected "an alternative")

/-- One of several names without content, written bare or with null. -/
def named {α : Type} (ofName? : String → Option α) : Decoder α := fun json => do
  let tag ← match ← tagged json with
    | .bare tag | .holding tag null => .ok tag
    | .holding tag _ => .error (.expected s!"no content in {tag}")
  match ofName? tag with
  | some value => .ok value
  | none => .error (.expected s!"another name than {tag}")

end CallChain.Json

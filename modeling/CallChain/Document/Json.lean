import CallChain.Document.Basic
import CallChain.Json.Parse
import CallChain.Json.Writer
import CallChain.Value.Json

/-! The JSON form of documents. -/

namespace CallChain

namespace Slot

/-- A slot as JSON. -/
def toJson (slot : Slot) : Json :=
  .object [("id", Json.ofWord32 slot.id.raw), ("name", .string slot.name),
    ("slot_type", .string slot.type.name), ("default", Json.ofOption Value.toJson slot.default)]

/-- The fields of a slot. -/
def fields : List Json.Field :=
  ["id", "name", "slot_type", "default"].map Json.Field.plain

/-- Reads a slot. -/
def ofJson : Json.Decoder Slot := fun json => do
  let found ← Json.record fields json
  let id ← found.required "id" Json.word32
  let name ← found.required "name" Json.text
  let type ← found.required "slot_type" ValueType.ofJson
  let default ← found.optional "default" Value.ofJson
  return ⟨⟨id⟩, name, type, default⟩

end Slot

namespace Slots

/-- The slots of a node as JSON. -/
def toJson (table : Slots) : Json :=
  .object [("entries", .array (table.entries.map Slot.toJson)),
    ("next_id", Json.ofWord32 table.nextId)]

/-- The fields of the slots of a node. -/
def fields : List Json.Field :=
  ["entries", "next_id"].map Json.Field.plain

/-- Reads the slots of a node. -/
def ofJson : Json.Decoder Slots := fun json => do
  let found ← Json.record fields json
  let entries ← found.required "entries" (Json.list Slot.ofJson)
  let nextId ← found.required "next_id" Json.word32
  return ⟨entries, nextId⟩

end Slots

namespace Pin

/-- A pin as JSON. -/
def toJson : Pin → Json
  | fixed pin => .object [("Fixed", .string pin.name)]
  | slot id => .object [("Slot", Json.ofWord32 id.raw)]

/-- Reads a pin. -/
def ofJson : Json.Decoder Pin := fun json => do
  match ← Json.tagged json with
  | .holding "Fixed" content => return fixed (← Json.named FixedPin.ofName? content)
  | .holding "Slot" content => return slot ⟨← Json.word32 content⟩
  | _ => throw (.expected "a pin")

end Pin

namespace Source

/-- A source as JSON. -/
def toJson (source : Source) : Json :=
  .object [("node", .string source.node), ("pin", .string source.pin)]

/-- The fields of a source. -/
def fields : List Json.Field :=
  ["node", "pin"].map Json.Field.plain

/-- Reads a source. -/
def ofJson : Json.Decoder Source := fun json => do
  let found ← Json.record fields json
  let node ← found.required "node" Json.text
  let pin ← found.required "pin" Json.text
  return ⟨node, pin⟩

end Source

namespace Link

/-- A link as JSON. -/
def toJson (link : Link) : Json :=
  .object [("pin", link.pin.toJson), ("source", link.source.toJson),
    ("source_type", .string link.sourceType.name), ("mode", .string link.mode.name)]

/-- The fields of a link. -/
def fields : List Json.Field :=
  ["pin", "source", "source_type", "mode"].map Json.Field.plain

/-- Reads a link. -/
def ofJson : Json.Decoder Link := fun json => do
  let found ← Json.record fields json
  let pin ← found.required "pin" Pin.ofJson
  let source ← found.required "source" Source.ofJson
  let sourceType ← found.required "source_type" ValueType.ofJson
  let mode ← found.required "mode" (Json.named Sharing.ofName?)
  return ⟨pin, source, sourceType, mode⟩

end Link

namespace FixedLiterals

/-- The literals of the fixed pins as JSON. -/
def toJson (defaults : FixedLiterals) : Json :=
  .object [("path", Json.ofOption .string defaults.path),
    ("item_id", Json.ofOption .string defaults.itemId),
    ("priority", Json.ofOption Json.ofInt64 defaults.priority)]

/-- The fields of the literals. -/
def fields : List Json.Field :=
  ["path", "item_id", "priority"].map Json.Field.plain

/-- Reads the literals of the fixed pins. -/
def ofJson : Json.Decoder FixedLiterals := fun json => do
  let found ← Json.record fields json
  let path ← found.optional "path" Json.text
  let itemId ← found.optional "item_id" Json.text
  let priority ← found.optional "priority" Json.int64
  return ⟨path, itemId, priority⟩

end FixedLiterals

namespace Node

/-- A node as JSON. -/
def toJson (node : Node) : Json :=
  .object [("id", .string node.id), ("fixed", node.fixed.toJson), ("slots", node.slots.toJson),
    ("links", .array (node.links.map Link.toJson))]

/-- The fields of a node. -/
def fields : List Json.Field :=
  ["id", "fixed", "slots", "links"].map Json.Field.plain

/-- Reads a node, consistent or not. -/
def ofJson : Json.Decoder Node := fun json => do
  let found ← Json.record fields json
  let id ← found.required "id" Json.text
  let fixed ← found.required "fixed" FixedLiterals.ofJson
  let slots ← found.required "slots" Slots.ofJson
  let links ← found.required "links" (Json.list Link.ofJson)
  return ⟨id, fixed, slots, links⟩

end Node

namespace Document

/-- A document as JSON. -/
def toJson (document : Document) : Json :=
  .object [("version", Json.ofWord32 document.version),
    ("nodes", .array (document.nodes.map Node.toJson))]

/-- The fields of a document. -/
def fields : List Json.Field :=
  ["version", "nodes"].map Json.Field.plain

/-- Reads a document, accepted or not. -/
def ofJson : Json.Decoder Document := fun json => do
  let found ← Json.record fields json
  let version ← found.required "version" Json.word32
  let nodes ← found.required "nodes" (Json.list Node.ofJson)
  return ⟨version, nodes⟩

/-- The JSON text of a document. -/
def toText (document : Document) : String :=
  document.toJson.pretty

/-- The accepted document of a JSON text. -/
def ofText (text : String) : Except DocumentFault Document :=
  match Json.parse ofJson text with
  | .error fault => .error (.json fault)
  | .ok document => document.accepted

end Document

end CallChain

import CallChain.Document.Json
import CallChain.Json.Sorted
import CallChain.Node.MenuActionJson
import CallChain.Node.Session

/-! Authoring sheets: a flat form of documents that is written by hand. -/

namespace CallChain

/-- A parameter of a sheet, whose type is still a word and whose default is any JSON value. -/
structure SheetParam where
  name : Option String
  type : String
  default : Option Json

/-- A node of a sheet. -/
structure SheetNode where
  id : String
  path : Option String
  itemId : Option String
  priority : Option Int64
  params : List SheetParam

/-- A sheet: the nodes of one graph. -/
structure Sheet where
  nodes : List SheetNode

/-- Why a sheet is no document. -/
inductive SheetFault where
  | unknownType (type : String)
  | unfitDefault (default : Json) (type : ValueType)
  | node (fault : NodeFault)

namespace SheetFault

/-- The fault in words. -/
def message : SheetFault → String
  | unknownType type => s!"Invalid custom data: unknown parameter type '{type}'"
  | unfitDefault default type =>
    s!"Invalid custom data: default {default.sorted.compact} does not fit type {type.name}"
  | node fault => fault.message

end SheetFault

namespace SheetParam

/-- How deep a default may nest: five levels of the sheet lie around it. -/
def defaultDepth : Nat := Json.deepest - 5

/-- Any JSON value, all parts of which have a value. -/
def anyJson : Json.Decoder Json := fun json =>
  if json.fits defaultDepth then .ok json else .error .unreadable

/-- Reads a parameter. -/
def ofJson : Json.Decoder SheetParam := fun json => do
  let found ← Json.record (["name", "type", "default"].map Json.Field.plain) json
  let name ← found.optional "name" Json.text
  let type ← found.required "type" Json.text
  let default ← found.optional "default" anyJson
  return ⟨name, type, default⟩

/-- The literal of a type that a JSON value stands for; objects have none. -/
def literal? : ValueType → Json → Option Value
  | .boolean, .bool b => some (.bool b)
  | .integer, json => (Json.int64 json).toOption.map Value.integer
  | .float, json => (Json.binary64 json).toOption.map Value.float
  | .string, .string s => some (.string s)
  | .text, .string s => some (.text s)
  | _, _ => none

/-- Adds the slot of a parameter to a node. -/
def addTo (param : SheetParam) (node : Node) : Except SheetFault Node :=
  match ValueType.parse? param.type with
  | none => .error (.unknownType param.type)
  | some type =>
    let (node, id) := node.add param.name type none
    match param.default with
    | none => .ok node
    | some json =>
      match literal? type json with
      | none => .error (.unfitDefault json type)
      | some value => (node.setDefault id (some value)).mapError .node

/-- The log records of adding the slot of a parameter to a node. -/
def notices (param : SheetParam) (node : Node) : List Notice :=
  match ValueType.parse? param.type with
  | none => []
  | some type =>
    let (added, id) := node.add param.name type none
    let literal := param.default.bind (literal? type)
    node.editNotices added (.add param.name type) (.slot id)
      ++ literal.toList.flatMap fun value =>
        added.editNotices added (.setDefault id (some value)) .done

end SheetParam

namespace SheetNode

/-- The fields of a node of a sheet. -/
def fields : List Json.Field :=
  [.plain "id", .plain "path", { name := "item_id", otherName := some "itemId" },
    { name := "priority", mayBeCut := true }, { name := "params", mayBeCut := true }]

/-- Reads a node of a sheet. -/
def ofJson : Json.Decoder SheetNode := fun json => do
  let found ← Json.record fields json
  let id ← found.required "id" Json.text
  let path ← found.optional "path" Json.text
  let itemId ← found.optional "item_id" Json.text
  let priority ← found.optional "priority" Json.int64
  let params ← found.orElse "params" [] (Json.list SheetParam.ofJson)
  return ⟨id, path, itemId, priority, params⟩

/-- The node without its slots; a priority that is not given is zero. -/
def header (raw : SheetNode) : Node :=
  let node := ((Node.new raw.id).setPath raw.path).setItemId raw.itemId
  if raw.priority.isSome then node.setPriority raw.priority else node

/-- The node with one slot for each parameter. -/
def toNode (raw : SheetNode) : Except SheetFault Node :=
  raw.params.foldlM (fun node param => param.addTo node) raw.header

/-- The log records of adding slots one after the other, up to the first that makes no sense. -/
def slotNotices : List SheetParam → Node → List Notice
  | [], _ => []
  | param :: rest, node =>
    param.notices node ++
      match param.addTo node with
      | .ok node => slotNotices rest node
      | .error _ => []

/-- The log records of making the node. -/
def notices (raw : SheetNode) : List Notice :=
  slotNotices raw.params raw.header

end SheetNode

namespace Sheet

/-- Reads a sheet. -/
def ofJson : Json.Decoder Sheet := fun json => do
  let found ← Json.record [.plain "nodes"] json
  return ⟨← found.required "nodes" (Json.list SheetNode.ofJson)⟩

/-- Reads the text of a sheet. -/
def ofText (text : String) : Except Json.Fault Sheet :=
  Json.parse ofJson text

/-- The document of a sheet, unless a parameter of it makes no sense. -/
def toDocument (sheet : Sheet) : Except SheetFault Document := do
  return Document.ofNodes (← sheet.nodes.mapM SheetNode.toNode)

/-- The log records of making nodes one after the other, up to the first that makes no sense. -/
def nodeNotices : List SheetNode → List Notice
  | [] => []
  | raw :: rest =>
    raw.notices ++
      match raw.toNode with
      | .ok _ => nodeNotices rest
      | .error _ => []

/-- The log records of making the document. -/
def notices (sheet : Sheet) : List Notice :=
  nodeNotices sheet.nodes

end Sheet

end CallChain

import CallChain.Document.Basic

/-! What a document holds all told: its texts, and the floats among its literals. -/

namespace CallChain

namespace Value

/-- The texts of a value. -/
def texts : Value → List String
  | .string s | .text s => [s]
  | _ => []

/-- The floats of a value. -/
def floats : Value → List Binary64
  | .float x => [x]
  | _ => []

end Value

namespace Slot

/-- The texts of a slot. -/
def texts (slot : Slot) : List String :=
  slot.name :: slot.default.toList.flatMap Value.texts

/-- The floats of a slot. -/
def floats (slot : Slot) : List Binary64 :=
  slot.default.toList.flatMap Value.floats

end Slot

/-- The texts of a link. -/
def Link.texts (link : Link) : List String :=
  [link.source.node, link.source.pin]

/-- The texts among the literals of the fixed pins. -/
def FixedLiterals.texts (literals : FixedLiterals) : List String :=
  literals.path.toList ++ literals.itemId.toList

namespace Node

/-- The texts of a node. -/
def texts (node : Node) : List String :=
  node.id :: node.fixed.texts ++ node.slots.entries.flatMap Slot.texts
    ++ node.links.flatMap Link.texts

/-- The floats of a node. -/
def floats (node : Node) : List Binary64 :=
  node.slots.entries.flatMap Slot.floats

end Node

namespace Document

/-- The texts of a document. -/
def texts (document : Document) : List String :=
  document.nodes.flatMap Node.texts

/-- The floats of a document. -/
def floats (document : Document) : List Binary64 :=
  document.nodes.flatMap Node.floats

end Document

end CallChain

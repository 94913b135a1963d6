import CallChain.FileTree
import CallChain.Json.Fields
import CallChain.Node.Validation

/-! Documents: the nodes of one graph, in order, with a version. -/

namespace CallChain

/-- The nodes of one graph as they are saved. -/
structure Document where
  version : UInt32
  nodes : List Node
deriving DecidableEq, Repr

namespace Document

/-- The version documents are saved in. -/
def currentVersion : UInt32 := 1

/-- A document of the current version. -/
def ofNodes (nodes : List Node) : Document :=
  ⟨currentVersion, nodes⟩

/-- The document of a graph without nodes. -/
def empty : Document :=
  ofNodes []

/-- The first node with an id. -/
def node? (document : Document) (id : String) : Option Node :=
  document.nodes.find? fun node => node.id == id

/-- Takes the first node with an id out, if there is one. -/
def removeNode? (document : Document) (id : String) : Option (Document × Node) :=
  (document.node? id).map fun removed =>
    ({ document with nodes := document.nodes.eraseP fun node => node.id == id }, removed)

/-- Puts another node in place of the first one with an id. -/
def replaceFirst (id : String) (replacement : Node) : List Node → List Node
  | [] => []
  | node :: rest =>
    if node.id = id then replacement :: rest else node :: replaceFirst id replacement rest

/-- Puts another node in place of the first one with an id. -/
def replaceNode (document : Document) (id : String) (replacement : Node) : Document :=
  { document with nodes := replaceFirst id replacement document.nodes }

/-- Equality up to the numeric equality of float defaults. -/
def agrees (first second : Document) : Bool :=
  first.version == second.version && first.nodes.isEqv second.nodes Node.agrees

end Document

/-- Why a stored document is not accepted. -/
inductive DocumentFault where
  | file (path : String) (fault : FileFault)
  | json (fault : Json.Fault)
  /-- The bytes are not those of a document. -/
  | binary
  | version (found : UInt32)
  | node (fault : NodeFault)
deriving DecidableEq, Repr

namespace DocumentFault

/-- The fault in words. -/
def message : DocumentFault → String
  | file path fault => s!"I/O error on '{path}': {fault.message}"
  | json fault => s!"Failed to parse JSON: {fault.message}"
  | binary => "Binary decoding failed: the bytes are not those of a document"
  | version found =>
    s!"Unsupported document version {found.toNat} (expected {Document.currentVersion.toNat})"
  | node fault => fault.message

end DocumentFault

namespace Document

/-- Accepts the documents of the current version whose nodes are all accepted. -/
def validate (document : Document) : Except DocumentFault Unit :=
  if document.version ≠ currentVersion then .error (.version document.version)
  else
    match document.nodes.findSome? Node.fault? with
    | some fault => .error (.node fault)
    | none => .ok ()

/-- The document itself, if it is accepted. -/
def accepted (document : Document) : Except DocumentFault Document :=
  document.validate.map fun _ => document

end Document

end CallChain

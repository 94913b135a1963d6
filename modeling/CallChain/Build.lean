import CallChain.Document.Basic
import CallChain.Lowering
import CallChain.Notice
import CallChain.Plan.Listing
import CallChain.Text.Alphanumeric

/-! Builds: the plans of a whole document, all of them or none. -/

namespace CallChain

/-- Why a document is rejected as a whole. -/
inductive BuildFault where
  | duplicateNode (id : String)
  | lowering (fault : LoweringFault)
  /-- The directory of the listings cannot be made. -/
  | directory (fault : FileFault)
  /-- A listing cannot be written. -/
  | listing (fault : FileFault)
deriving DecidableEq, Repr

namespace BuildFault

/-- The fault in words. -/
def message : BuildFault → String
  | duplicateNode id => s!"Node id '{id}' appears more than once in the document"
  | lowering fault => fault.message
  | directory fault =>
    s!"Failed to write debug output: Failed to create debug directory: {fault.message}"
  | listing fault =>
    s!"Failed to write debug output: Failed to write debug file: {fault.message}"

end BuildFault

/-- A node with its plan. -/
structure Expansion where
  nodeId : String
  plan : Plan
deriving DecidableEq, Repr

namespace Build

/-- What a build does besides lowering. -/
structure Setting where
  /-- Whether every plan is checked. -/
  verify : Bool
  /-- The directory that listings are written to, if they are wanted. -/
  listings : Option String
deriving Repr

/-- What a build gives, and what it leaves behind. -/
structure Outcome where
  result : Except BuildFault (List Expansion)
  files : FileTree
  notices : List Notice

/-- The name of the listing of a node: what is alphanumeric in its id, or an underscore. -/
def listingName (nodeId : String) : String :=
  let kept := nodeId.toList.filter fun c => Text.isAlphanumeric c || c == '_'
  s!"plan_{String.ofList kept}.txt"

/-- Writes the listing of a plan, if listings are wanted. -/
def writeListing (setting : Setting) (plan : Plan) (files : FileTree) :
    FileTree × Except BuildFault Unit :=
  match setting.listings with
  | none => (files, .ok ())
  | some directory =>
    match files.makeDirectory directory with
    | (files, .error fault) => (files, .error (.directory fault))
    | (files, .ok ()) =>
      let path := FileTree.join directory (listingName plan.nodeId)
      match files.write path (Text.toBytes plan.listing) with
      | .error fault => (files, .error (.listing fault))
      | .ok files => (files, .ok ())

/-- The log record of a node that was lowered. -/
def loweredNotice (node : Node) (plan : Plan) : Notice :=
  ⟨.debug, s!"Lowered node '{node.id}' into {plan.steps.length} steps "
    ++ s!"({node.slots.entries.length} properties)"⟩

/-- Lowers nodes in order up to the first that fails. -/
def lowerNodes (setting : Setting) : List Node → FileTree → Outcome
  | [], files => ⟨.ok [], files, []⟩
  | node :: rest, files =>
    match node.lowerChecked setting.verify with
    | .error fault => ⟨.error (.lowering fault), files, []⟩
    | .ok plan =>
      let notice := loweredNotice node plan
      match writeListing setting plan files with
      | (files, .error fault) => ⟨.error fault, files, [notice]⟩
      | (files, .ok ()) =>
        let others := lowerNodes setting rest files
        { others with
          result := others.result.map (⟨node.id, plan⟩ :: ·)
          notices := notice :: others.notices }

/-- Lowers a document; the first fault rejects all of it. -/
def run (setting : Setting) (document : Document) (files : FileTree) : Outcome :=
  match firstRepeated? (document.nodes.map Node.id) with
  | some id => ⟨.error (.duplicateNode id), files, []⟩
  | none => lowerNodes setting document.nodes files

/-- The plans of a document, checked, with nothing left behind. -/
def plans (document : Document) : Except BuildFault (List Expansion) :=
  (run ⟨true, none⟩ document .empty).result

end Build

end CallChain

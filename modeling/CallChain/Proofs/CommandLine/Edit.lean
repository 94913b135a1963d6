import CallChain.CommandLine.Commands
import CallChain.Proofs.Document.Editing

/-! Editing from the command line: what is saved, and for how long it is loaded again. -/

namespace CallChain.CommandLine

open MenuAction

variable {document : Document} {node edited : Node} {actions : List MenuAction}
  {request : EditRequest} {files written : FileTree}

/-- A document is saved by a command whenever it is saved at all. -/
theorem saveDocument_eq_ok_iff {path : String} :
    saveDocument document path files = .ok written ↔ document.save path files = .ok written :=
  mapError_eq_ok_iff

/-- What an edit is to work with can be read: a document that has the node, and commands. -/
structure Ready (request : EditRequest) (files : FileTree) (document : Document) (node : Node)
    (actions : List MenuAction) : Prop where
  loaded : Document.load request.document files = .ok document
  listed : ∃ text, files.readText request.commands = .ok text ∧
    Json.parse MenuAction.several text = .ok actions
  found : document.node? request.node = some node

/-- An edit is loaded just when all that it works with can be read. -/
theorem loadEdit_eq_ok_iff :
    loadEdit request files = .ok (document, node, actions) ↔
      Ready request files document node actions := by
  constructor
  · intro loaded
    obtain ⟨opened, opening, loaded⟩ := bind_eq_ok_iff.mp loaded
    obtain ⟨text, read, loaded⟩ := bind_eq_ok_iff.mp loaded
    obtain ⟨commands, parsed, loaded⟩ := bind_eq_ok_iff.mp loaded
    split at loaded
    next => cases loaded
    next found member =>
      cases loaded
      exact ⟨mapError_eq_ok_iff.mp opening,
        ⟨text, mapError_eq_ok_iff.mp read, mapError_eq_ok_iff.mp parsed⟩, member⟩
  · intro ready
    obtain ⟨text, read, parsed⟩ := ready.listed
    refine bind_eq_ok_iff.mpr ⟨document, mapError_eq_ok_iff.mpr ready.loaded, ?_⟩
    refine bind_eq_ok_iff.mpr ⟨text, mapError_eq_ok_iff.mpr read, ?_⟩
    refine bind_eq_ok_iff.mpr ⟨actions, mapError_eq_ok_iff.mpr parsed, ?_⟩
    rw [ready.found]
    rfl

/-- What is edited is the first node with the id in a valid document. -/
theorem loadEdit_eq_ok (loaded : loadEdit request files = .ok (document, node, actions)) :
    document.validate = .ok () ∧ document.node? request.node = some node := by
  -- The document is opened first, and only an accepted one is.
  have ready := loadEdit_eq_ok_iff.mp loaded
  exact ⟨Document.validate_of_load ready.loaded, ready.found⟩

/-- Commands lead to the node that the same actions lead to. -/
theorem applyCommands_eq_ok_iff :
    (applyCommands actions node).2.2 = .ok edited ↔ applyAll actions node = .ok edited := by
  -- The two differ only in the lines and the log records that the command keeps.
  induction actions generalizing node with
  | nil => simp [applyCommands, applyAll]
  | cons action rest ih =>
    rw [applyCommands, applyAll]
    cases action.apply node with
    | error fault => simp [Bind.bind, Except.bind]
    | ok step => exact ih

/-- An edit whose commands are accepted succeeds exactly when the edited document can be saved, and
leaves the files as they are after that. -/
theorem edit_done_iff (loaded : loadEdit request files = .ok (document, node, actions))
    (accepted : applyAll actions node = .ok edited) :
    (edit request files).failure = none ∧ (edit request files).files = written ↔
      (document.replaceNode request.node edited).save (request.output.getD request.document) files =
        .ok written := by
  have reached := applyCommands_eq_ok_iff.mpr accepted
  rw [← saveDocument_eq_ok_iff]
  unfold edit
  rw [loaded]
  simp only [reached]
  -- With a node and commands that it accepts, saving is all that can go wrong.
  split
  next fault refused => simp [refused, Outcome.failed]
  next after saved => simp [saved, Outcome.success]

/-- A file that a finished edit has saved is loaded exactly when the edited node has ids left. -/
theorem load_of_edit_iff (loaded : loadEdit request files = .ok (document, node, actions))
    (accepted : applyAll actions node = .ok edited)
    (suits : (document.replaceNode request.node edited).SuitsPath
      (request.output.getD request.document))
    (done : (edit request files).failure = none) :
    Document.load (request.output.getD request.document) (edit request files).files =
        .ok (document.replaceNode request.node edited) ↔ LeavesIds actions node := by
  obtain ⟨valid, found⟩ := loadEdit_eq_ok loaded
  -- What was saved is the document with the edited node in the place of the one that was found.
  have saved := (edit_done_iff loaded accepted).mp ⟨done, rfl⟩
  obtain ⟨position, placed, replaced⟩ := Document.exists_replaceNode_eq_setNode found
  rw [Document.load_of_save_eq_ok_iff suits saved, replaced]
  exact Document.validate_edited_iff valid placed accepted

/-- Menu actions that are carried out on a node of a valid document lead to a document that is
valid, that its binary form is loaded as, and that a finished edit from the command line leaves in
a file that can be loaded, exactly when the node has ids left after them.

No room for ids does not keep an edit from finishing: it does whenever the file can be written. -/
theorem reload_edited_iff {position : Nat} (valid : document.validate = .ok ())
    (placed : document.nodes[position]? = some node)
    (accepted : applyAll actions node = .ok edited) :
    ((document.setNode position edited).validate = .ok () ↔ LeavesIds actions node) ∧
      ((document.setNode position edited).Addressable →
        (Document.ofBytes (document.setNode position edited).toBytes =
          .ok (document.setNode position edited) ↔ LeavesIds actions node)) ∧
      ∀ request files, loadEdit request files = .ok (document, node, actions) →
        ((edit request files).failure = none ↔
          ∃ written, (document.replaceNode request.node edited).save
            (request.output.getD request.document) files = .ok written) ∧
        ((document.replaceNode request.node edited).SuitsPath
            (request.output.getD request.document) →
          (edit request files).failure = none →
          (Document.load (request.output.getD request.document) (edit request files).files =
            .ok (document.replaceNode request.node edited) ↔ LeavesIds actions node)) := by
  have kept := Document.validate_edited_iff valid placed accepted
  refine ⟨kept, fun addressable => ?_, fun request files loaded => ⟨?_, fun suits done => ?_⟩⟩
  · rw [Document.ofBytes_toBytes_eq_ok_iff addressable]
    exact kept
  · -- Nothing but the file system decides whether the command finishes.
    constructor
    · intro done
      exact ⟨_, (edit_done_iff loaded accepted).mp ⟨done, rfl⟩⟩
    · rintro ⟨written, saved⟩
      exact ((edit_done_iff loaded accepted).mpr saved).1
  · exact load_of_edit_iff loaded accepted suits done

/-- A node of one slot, with a literal and a link, whose counter of ids stands far ahead. -/
def sparse (nextId : UInt32) : Node :=
  ⟨"n", ⟨some "UI", none, some 0⟩, ⟨[⟨⟨0⟩, "Title", .string, some (.string "Hi")⟩], nextId⟩,
    [⟨.slot ⟨0⟩, ⟨"menu", "text"⟩, .string, .shared⟩]⟩

/-- A directory with a document of that node and with commands for it. -/
def sparseFiles (nextId : UInt32) : FileTree :=
  let commands := "[\x7b\"op\": \"add\", \"name\": \"Title\", \"type\": \"Float\"\x7d, " ++
    "\x7b\"op\": \"retype\", \"slot\": 0, \"type\": \"Integer\"\x7d]"
  ⟨[], [(["graph.bin"], .file (Document.ofNodes [sparse nextId]).toBytes),
    (["commands.json"], .file (Text.toBytes commands))]⟩

/-- With one id to spare a slot is added to the node, another one loses its literal and its link
with its type, and the document is loaded again, from a text as well. -/
theorem reload_edited_sparse :
    let document := Document.ofNodes [sparse 4294967293]
    let actions := [.add (some "Title") .float, .retype ⟨0⟩ .integer]
    let edited : Node := ⟨"n", ⟨some "UI", none, some 0⟩,
      ⟨[⟨⟨0⟩, "Title", .integer, none⟩, ⟨⟨4294967293⟩, "Title_1", .float, none⟩], 4294967294⟩, []⟩
    let request : EditRequest := ⟨"graph.bin", "n", "commands.json", some "graph.json"⟩
    (document.validate = .ok () ∧ document.nodes[0]? = some (sparse 4294967293) ∧
        applyAll actions (sparse 4294967293) = .ok edited) ∧
      (document.setNode 0 edited).validate = .ok () ∧
      Document.ofBytes (document.setNode 0 edited).toBytes = .ok (document.setNode 0 edited) ∧
      Document.load "graph.json" (edit request (sparseFiles 4294967293)).files =
        .ok (document.setNode 0 edited) := by
  intro document actions edited request
  have valid : document.validate = .ok () := by decide +kernel
  have placed : document.nodes[0]? = some (sparse 4294967293) := rfl
  have accepted : applyAll actions (sparse 4294967293) = .ok edited := by decide +kernel
  have addressable : (document.setNode 0 edited).Addressable := by decide +kernel
  have suits : (document.replaceNode "n" edited).SuitsPath "graph.json" := by decide +kernel
  have loaded : loadEdit request (sparseFiles 4294967293) =
      .ok (document, sparse 4294967293, actions) := by decide +kernel
  have done : (edit request (sparseFiles 4294967293)).failure = none := by decide +kernel
  have left : LeavesIds actions (sparse 4294967293) := by decide +kernel
  have kept := reload_edited_iff valid placed accepted
  exact ⟨⟨valid, placed, accepted⟩, kept.1.mpr left, (kept.2.1 addressable).mpr left,
    ((kept.2.2 request _ loaded).2 suits done).mpr left⟩

/-- A valid document need not stay valid when a slot is added to one of its nodes. -/
theorem not_forall_validate_edited :
    ¬∀ (document : Document) (position : Nat) (node edited : Node) (actions : List MenuAction),
      document.validate = .ok () → document.nodes[position]? = some node →
        applyAll actions node = .ok edited →
          (document.setNode position edited).validate = .ok () := by
  intro stays
  -- The last id but one is given out, which brings the counter to its end.
  have valid : (Document.ofNodes [sparse 4294967294]).validate = .ok () := by decide +kernel
  have kept := stays _ 0 (sparse 4294967294) _ [.add (some "Title") .float] valid rfl rfl
  exact absurd kept (by decide +kernel)

end CallChain.CommandLine

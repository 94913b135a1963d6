import CallChain.Proofs.CommandLine.Edit

/-! Editing from the command line is all or nothing: the document is saved with every command
carried out, or it is not saved at all. -/

namespace CallChain.CommandLine

open MenuAction

/-- What stops an edit before anything is saved. -/
inductive Stops (request : EditRequest) (files : FileTree) : Prop where
  | document {fault : DocumentFault}
      (unread : Document.load request.document files = .error fault)
  | commands {fault : FileFault} (unread : files.readText request.commands = .error fault)
  | format {text : String} {fault : Json.Fault}
      (read : files.readText request.commands = .ok text)
      (malformed : Json.parse MenuAction.several text = .error fault)
  | node {document : Document} (read : Document.load request.document files = .ok document)
      (missing : document.node? request.node = none)
  /-- One of the commands is refused by the node that those before it have led to. -/
  | refusal {document : Document} {node reached : Node} {before after : List MenuAction}
      {action : MenuAction} {fault : NodeFault}
      (ready : Ready request files document node (before ++ action :: after))
      (led : applyAll before node = .ok reached) (refused : action.apply reached = .error fault)

variable {document : Document} {node edited : Node} {actions : List MenuAction}
  {request : EditRequest} {files written : FileTree}

/-- Commands are not all carried out just when one of them is refused by the node that those before
it have led to. -/
theorem applyAll_fails_iff :
    (∃ fault, applyAll actions node = .error fault) ↔
      ∃ before action after reached fault, actions = before ++ action :: after ∧
        applyAll before node = .ok reached ∧ action.apply reached = .error fault := by
  induction actions generalizing node with
  | nil => simp [applyAll]
  | cons first rest ih =>
    cases step : first.apply node with
    | error fault =>
      -- The first command is the one that is refused.
      have failed : applyAll (first :: rest) node = .error fault := by rw [applyAll, step]; rfl
      exact iff_of_true ⟨fault, failed⟩ ⟨[], first, rest, node, fault, rfl, rfl, step⟩
    | ok done =>
      -- Otherwise the rest goes on from what the first has led to.
      have onward : ∀ others, applyAll (first :: others) node = applyAll others done.1 := by
        intro others
        rw [applyAll, step]
        rfl
      rw [onward, ih]
      constructor
      · intro found
        obtain ⟨before, action, after, reached, fault, rfl, led, refused⟩ := found
        exact ⟨first :: before, action, after, reached, fault, rfl, (onward before).trans led,
          refused⟩
      · intro found
        obtain ⟨before, action, after, reached, fault, split, led, refused⟩ := found
        cases before with
        | nil =>
          -- The first command has been carried out, so it is not the one.
          obtain ⟨rfl, rfl⟩ := List.cons_eq_cons.mp split
          cases led
          rw [step] at refused
          cases refused
        | cons other before =>
          obtain ⟨rfl, rfl⟩ := List.cons_eq_cons.mp split
          exact ⟨before, action, after, reached, fault, rfl, (onward before).symm.trans led,
            refused⟩

/-- An edit is stopped, or else all its commands are carried out on the node. -/
theorem stops_or_accepted (request : EditRequest) (files : FileTree) :
    Stops request files ∨ ∃ document node actions edited,
      Ready request files document node actions ∧ applyAll actions node = .ok edited := by
  -- What is read is looked at in the order in which it is read.
  cases opened : Document.load request.document files with
  | error fault => exact .inl (.document opened)
  | ok document =>
    cases read : files.readText request.commands with
    | error fault => exact .inl (.commands read)
    | ok text =>
      cases parsed : Json.parse MenuAction.several text with
      | error fault => exact .inl (.format read parsed)
      | ok actions =>
        cases found : document.node? request.node with
        | none => exact .inl (.node opened found)
        | some node =>
          have ready : Ready request files document node actions :=
            ⟨opened, ⟨text, read, parsed⟩, found⟩
          cases accepted : applyAll actions node with
          | ok edited => exact .inr ⟨document, node, actions, edited, ready, accepted⟩
          | error fault =>
            obtain ⟨before, action, after, reached, fault, rfl, led, refused⟩ :=
              applyAll_fails_iff.mp ⟨fault, accepted⟩
            exact .inl (.refusal ready led refused)

/-- What is read for an edit is determined by the files. -/
theorem Ready.unique {other : Document} {otherNode : Node} {others : List MenuAction}
    (ready : Ready request files document node actions)
    (again : Ready request files other otherNode others) :
    other = document ∧ otherNode = node ∧ others = actions := by
  have same := (loadEdit_eq_ok_iff.mpr again).symm.trans (loadEdit_eq_ok_iff.mpr ready)
  simpa using same

/-- An edit that is stopped does not also have all its commands carried out. -/
theorem Stops.not_accepted (stops : Stops request files)
    (ready : Ready request files document node actions) : applyAll actions node ≠ .ok edited := by
  intro accepted
  obtain ⟨text, read, parsed⟩ := ready.listed
  cases stops with
  | document unread => simp [ready.loaded] at unread
  | commands unread => simp [read] at unread
  | format again malformed =>
    obtain rfl : _ = text := by simpa [read] using again.symm
    simp [parsed] at malformed
  | node again missing =>
    obtain rfl : _ = document := by simpa [ready.loaded] using again.symm
    simp [ready.found] at missing
  | @refusal other otherNode reached before after action fault again led refused =>
    have fails := applyAll_fails_iff.mpr ⟨before, action, after, reached, fault, rfl, led, refused⟩
    obtain ⟨-, sameNode, sameActions⟩ := ready.unique again
    rw [sameNode, sameActions, accepted] at fails
    simp at fails

/-- Unless all commands of an edit are carried out, it fails and leaves all files. -/
theorem edit_eq_failed
    (refused : ∀ document node actions edited, Ready request files document node actions →
      applyAll actions node ≠ .ok edited) :
    (edit request files).failure ≠ none ∧ (edit request files).files = files := by
  unfold edit
  cases loaded : loadEdit request files with
  | error message => exact ⟨Option.some_ne_none _, rfl⟩
  | ok found =>
    obtain ⟨document, node, actions⟩ := found
    have ready := loadEdit_eq_ok_iff.mp loaded
    rcases outcome : applyCommands actions node with ⟨lines, notices, message | edited⟩
    · simp only [outcome]
      exact ⟨Option.some_ne_none _, rfl⟩
    · have reached : (applyCommands actions node).2.2 = .ok edited := by rw [outcome]
      exact absurd (applyCommands_eq_ok_iff.mp reached) (refused _ _ _ _ ready)

/-- An edit whose commands are all carried out fails when the document cannot be saved. -/
theorem edit_of_save_eq_error {fault : DocumentFault}
    (ready : Ready request files document node actions)
    (accepted : applyAll actions node = .ok edited)
    (unsaved : (document.replaceNode request.node edited).save
      (request.output.getD request.document) files = .error fault) :
    (edit request files).failure ≠ none := by
  have reached := applyCommands_eq_ok_iff.mpr accepted
  unfold edit
  rw [loadEdit_eq_ok_iff.mpr ready]
  simp [reached, saveDocument, unsaved, Except.mapError, Outcome.failed]

/-- A document is saved whenever its content can be written. -/
theorem save_eq_ok_of_write {path : String}
    (wrote : files.write path (document.contentFor path) = .ok written) :
    document.save path files = .ok written := by
  rw [Document.save, wrote]

/-- An edit is all or nothing. If the document or the commands cannot be read, the node is missing
or a command is refused, the edit fails and no file is touched. Otherwise all commands are carried
out in order, and the document in which just the first node of the id is replaced by what they
have led to is what the target file holds afterwards, while no other file is touched; unless the
target cannot be written, and then the edit fails. -/
theorem edit_all_or_nothing (request : EditRequest) (files : FileTree) :
    (Stops request files ∨ ∃ document node actions edited,
      Ready request files document node actions ∧ applyAll actions node = .ok edited) ∧
    (Stops request files →
      (edit request files).failure ≠ none ∧ (edit request files).files = files) ∧
    ∀ document node actions edited, Ready request files document node actions →
      applyAll actions node = .ok edited →
      let target := request.output.getD request.document
      ∃ after : Document, document.ReplacesFirst after request.node node edited ∧
        (∀ written, files.write target (after.contentFor target) = .ok written →
          (edit request files).failure = none ∧
          (edit request files).files.read target = .ok (after.contentFor target) ∧
          ∃ place, files.locate target = .ok place ∧ ∀ other, other ≠ place →
            (edit request files).files.entry? other = files.entry? other) ∧
        ∀ fault, files.write target (after.contentFor target) = .error fault →
          (edit request files).failure ≠ none := by
  refine ⟨stops_or_accepted request files, ?_, ?_⟩
  · intro stops
    exact edit_eq_failed fun _ _ _ _ ready => stops.not_accepted ready
  · intro document node actions edited ready accepted target
    refine ⟨document.replaceNode request.node edited,
      Document.replacesFirst_replaceNode ready.found, ?_, ?_⟩
    · intro written wrote
      have loaded := loadEdit_eq_ok_iff.mpr ready
      obtain ⟨done, left⟩ := (edit_done_iff loaded accepted).mpr (save_eq_ok_of_write wrote)
      rw [left]
      exact ⟨done, FileTree.read_write wrote, FileTree.write_elsewhere wrote⟩
    · intro fault refused
      have unsaved : (document.replaceNode request.node edited).save target files =
          .error (.file target fault) := by rw [Document.save, refused]
      exact edit_of_save_eq_error ready accepted unsaved

/-- An edit of the sparse node, with a target of its own. -/
def sparseEdit (target : Option String) : EditRequest :=
  ⟨"graph.bin", "n", "commands.json", target⟩

/-- Both commands for the sparse node are carried out, and the file of its document holds the
result. -/
theorem edit_all_or_nothing_sparse :
    ∃ document node actions edited,
      Ready (sparseEdit none) (sparseFiles 7) document node actions ∧
      applyAll actions node = .ok edited ∧
      ∃ after : Document, document.ReplacesFirst after "n" node edited ∧
        (edit (sparseEdit none) (sparseFiles 7)).failure = none ∧
        (edit (sparseEdit none) (sparseFiles 7)).files.read "graph.bin" =
          .ok (after.contentFor "graph.bin") := by
  have ready : Ready (sparseEdit none) (sparseFiles 7) (Document.ofNodes [sparse 7]) (sparse 7)
      [.add (some "Title") .float, .retype ⟨0⟩ .integer] :=
    loadEdit_eq_ok_iff.mp (by decide +kernel)
  obtain ⟨_, _, carried⟩ := edit_all_or_nothing (sparseEdit none) (sparseFiles 7)
  obtain ⟨after, replaced, saved, _⟩ := carried _ _ _ _ ready rfl
  -- A file stands there already, so any content can be put in its place.
  have wrote : (sparseFiles 7).write "graph.bin" (after.contentFor "graph.bin") =
      .ok ((sparseFiles 7).put ["graph.bin"] (.file (after.contentFor "graph.bin"))) := rfl
  obtain ⟨done, holds, _⟩ := saved _ wrote
  exact ⟨_, _, _, _, ready, rfl, after, replaced, done, holds⟩

/-- A target in a directory that is not there holds nothing after an edit, although all commands
are carried out. -/
theorem not_forall_target_saved :
    ¬ ∀ (request : EditRequest) (files : FileTree) (document : Document) (node edited : Node)
        (actions : List MenuAction),
      Ready request files document node actions → applyAll actions node = .ok edited →
      ∃ after : Document, document.ReplacesFirst after request.node node edited ∧
        (edit request files).files.read (request.output.getD request.document) =
          .ok (after.contentFor (request.output.getD request.document)) := by
  intro saved
  have ready : Ready (sparseEdit (some "missing/graph.bin")) (sparseFiles 7)
      (Document.ofNodes [sparse 7]) (sparse 7) [.add (some "Title") .float, .retype ⟨0⟩ .integer] :=
    loadEdit_eq_ok_iff.mp (by decide +kernel)
  obtain ⟨after, _, holds⟩ := saved _ _ _ _ _ _ ready rfl
  have missing : (edit (sparseEdit (some "missing/graph.bin")) (sparseFiles 7)).files.read
      "missing/graph.bin" = .error .notFound := by decide +kernel
  have same := missing.symm.trans holds
  cases same

end CallChain.CommandLine

import CallChain.Build
import CallChain.CommandLine.Outcome
import CallChain.CommandLine.Request
import CallChain.Document.File
import CallChain.Node.Session
import CallChain.Run.Chain
import CallChain.Sheet

/-! The commands: each reads its files, does its work, and prints what came of it. -/

namespace CallChain.CommandLine

/-- Reads a document or a sheet. -/
def openDocument (path : String) (sheet : Bool) (files : FileTree) : Except String Document :=
  if sheet then do
    let text ← (files.readText path).mapError fun fault =>
      s!"Failed to read sheet '{path}': {fault.message}"
    let raw ← (Sheet.ofText text).mapError fun fault =>
      s!"Failed to parse sheet JSON: {fault.message}"
    raw.toDocument.mapError fun fault => s!"Failed to convert sheet: {fault.message}"
  else
    (Document.load path files).mapError fun fault =>
      s!"Failed to load document '{path}': {fault.message}"

/-- Saves a document. -/
def saveDocument (document : Document) (path : String) (files : FileTree) :
    Except String FileTree :=
  (document.save path files).mapError fun fault => s!"Failed to save '{path}': {fault.message}"

/-- The line about a saved document. -/
def savedLine (path : String) : List Piece :=
  Piece.lines [s!"Saved document to '{path}'"]

/-- The directory that the listings of lowered nodes are written to. -/
def listingDirectory : String := "tmp"

/-- Lowers a document and keeps the listings of its nodes; `printed` and `files` are those of the
command so far. Listings that were written stay when a later node is rejected. -/
def buildDocument (document : Document) (printed : List Piece) (files : FileTree)
    (goOn : List Expansion → List Piece → FileTree → List Notice → Outcome) : Outcome :=
  let build := Build.run ⟨true, some listingDirectory⟩ document files
  match build.result with
  | .error fault =>
    .failed s!"Lowering failed: {fault.message}" printed build.files build.notices
  | .ok nodes =>
    let line := [.text s!"Lowered {nodes.length} node(s) in ", .elapsed, .text "\n"]
    goOn nodes (printed ++ line) build.files build.notices

/-- Prints the plans of a document, and saves it before that if a file is named. -/
def compile (request : CompileRequest) (files : FileTree) : Outcome :=
  match openDocument request.document request.sheet files with
  | .error message => .failed message [] files []
  | .ok document =>
    let saved : Except String (List Piece × FileTree) :=
      match request.output with
      | none => .ok ([], files)
      | some path => (saveDocument document path files).map fun files => (savedLine path, files)
    match saved with
    | .error message => .failed message [] files []
    | .ok (printed, files) =>
      buildDocument document printed files fun nodes printed files notices =>
        let listings := nodes.map fun node => s!"\n{node.plan.listing}"
        .success (printed ++ Piece.lines listings) files notices

/-- Reads the value that another node supplies. -/
def inputOfJson : Json.Decoder (Source × Value) := fun json => do
  let found ← Json.record (["node", "pin", "value"].map Json.Field.plain) json
  let node ← found.required "node" Json.text
  let pin ← found.required "pin" Json.text
  let value ← found.required "value" Value.ofJson
  return (⟨node, pin⟩, value)

/-- Reads the values that other nodes supply, the later ones counting. -/
def loadInputs (path : String) (files : FileTree) : Except String Supply := do
  let text ← (files.readText path).mapError fun fault =>
    s!"Failed to read inputs '{path}': {fault.message}"
  let inputs ← (Json.parse (Json.list inputOfJson) text).mapError fun fault =>
    s!"Failed to parse inputs JSON: {fault.message}"
  return inputs.foldl (fun supply input => supply.insert input.1 input.2) .empty

/-- What a run of chains works with. -/
structure RunMaterial where
  document : Document
  manager : Manager Bag
  supply : Supply

/-- Reads everything that a run of chains needs. -/
def loadMaterial (request : RunRequest) (files : FileTree) : Except String RunMaterial := do
  let document ← openDocument request.document request.sheet files
  let catalog ← (files.readText request.catalog).mapError fun fault =>
    s!"Failed to read catalog '{request.catalog}': {fault.message}"
  let manager ← (Manager.ofCatalogText id catalog).mapError fun fault =>
    s!"Failed to parse catalog: Failed to parse JSON: {fault.message}"
  let supply ← match request.inputs with
    | none => .ok .empty
    | some path => loadInputs path files
  return ⟨document, manager, supply⟩

/-- The line about a property step without effect. -/
def unresolvedLine (miss : Miss) : String :=
  let objectType := miss.objectType.getD "<unavailable>"
  let reason := match miss.reason with
    | .binding fault => fault.diagnostic
    | .objectUnavailable => "object unavailable"
  s!"     unresolved '{miss.property}' on {objectType}: {reason}"

/-- The lines about a chain that ran. -/
def outcomeLines (outcome : RunReport) : List String :=
  s!"  -> {outcome.trace.display}" :: outcome.unresolved.map unresolvedLine

/-- Runs chains one after the other against one manager, up to the first that fails. -/
def runAll (supply : Supply) (diagnostics : Bool) :
    List Expansion → Manager Bag → List String × List Notice × Except String (Manager Bag)
  | [], manager => ([], [], .ok manager)
  | node :: rest, manager =>
    let setting : RunSetting := ⟨node.plan, supply, .invalid, diagnostics⟩
    let run := setting.run manager
    match run.result with
    | .error fault => ([], run.notices, .error s!"Chain '{node.nodeId}' failed: {fault.message}")
    | .ok outcome =>
      let (lines, notices, result) := runAll supply diagnostics rest run.manager
      (outcomeLines outcome ++ lines, run.notices ++ notices, result)

/-- The lines at the end of a run. -/
def summary (chains live : Nat) : List Piece :=
  Piece.lines ["\n--- Summary ---", s!"Chains run:     {chains}", s!"Live objects:   {live}"]
    ++ [.text "Execution:      ", .elapsed, .text "\n"]

/-- Lowers a document and runs every plan, and tells what each run did. -/
def run (request : RunRequest) (files : FileTree) : Outcome :=
  match loadMaterial request files with
  | .error message => .failed message [] files []
  | .ok material =>
    buildDocument material.document [] files fun nodes printed files notices =>
      let opening := Piece.lines [s!"\nRunning {nodes.length} chain(s)..."]
      let (lines, more, result) :=
        runAll material.supply request.diagnostics nodes material.manager
      let printed := printed ++ opening ++ Piece.lines lines
      match result with
      | .error message => .failed message printed files (notices ++ more)
      | .ok manager =>
        .success (printed ++ summary nodes.length manager.live) files (notices ++ more)

/-- Reads a document, one node of it and the commands for that node. -/
def loadEdit (request : EditRequest) (files : FileTree) :
    Except String (Document × Node × List MenuAction) := do
  let document ← openDocument request.document false files
  let text ← (files.readText request.commands).mapError fun fault =>
    s!"Failed to read commands '{request.commands}': {fault.message}"
  let commands ← (Json.parse MenuAction.several text).mapError fun fault =>
    s!"Failed to parse commands JSON: {fault.message}"
  match document.node? request.node with
  | none => throw s!"No node '{request.node}' in document"
  | some node => return (document, node, commands)

/-- Carries commands out one after the other, up to the first that is refused. -/
def applyCommands : List MenuAction → Node →
    List String × List Notice × Except String Node
  | [], node => ([], [], .ok node)
  | command :: rest, node =>
    match command.apply node with
    | .error fault => ([], [], .error s!"{command.diagnostic} failed: {fault.message}")
    | .ok (edited, outcome) =>
      let warnings := outcome.warnings.map fun warning => s!"Warning: {warning.message}"
      let logged := node.editNotices edited (.menu command) (.outcome outcome)
      let (lines, notices, result) := applyCommands rest edited
      (warnings ++ lines, logged ++ notices, result)

/-- The line about one slot. -/
def slotLine (row : SlotRow) : String :=
  let wiring := if row.connected then " (connected)" else ""
  s!"  {row.position}: {row.slot.name} {row.slot.type.name}{wiring}"

/-- The lines about the slots of an edited node. -/
def slotLines (node : Node) (id : String) : List String :=
  s!"\nSlots of '{id}':" :: node.slotRows.map slotLine

/-- Carries slot commands out on one node, and saves the document when none is refused. -/
def edit (request : EditRequest) (files : FileTree) : Outcome :=
  match loadEdit request files with
  | .error message => .failed message [] files []
  | .ok (document, node, commands) =>
    let (warnings, notices, result) := applyCommands commands node
    match result with
    | .error message => .failed message (Piece.lines warnings) files notices
    | .ok edited =>
      let printed := Piece.lines (warnings ++ slotLines edited request.node)
      let target := request.output.getD request.document
      match saveDocument (document.replaceNode request.node edited) target files with
      | .error message => .failed message printed files notices
      | .ok files => .success (printed ++ savedLine target) files notices

/-- Does what is asked for. -/
def perform (program : Program) (request : Request) (files : FileTree) : Outcome :=
  match request with
  | .compile request => compile request files
  | .run request => run request files
  | .edit request => edit request files
  | .help topic => .success (Piece.lines (topic.page program)) files []
  | .version => .success (Piece.lines [s!"{program.name} {program.version}"]) files []

/-- What is said to arguments that make no sense; where there are none, that is how to go on. -/
def misuseText (program : Program) (arguments : List String) (misuse : Misuse) : String :=
  if arguments.isEmpty then "\n".intercalate (Topic.program.page program)
  else s!"error: {misuse.message}\n\nUsage: {Topic.program.usage program}"

/-- Does what arguments ask for. -/
def execute (program : Program) (arguments : List String) (files : FileTree) : Outcome :=
  match parse arguments with
  | .error misuse => .misused (misuseText program arguments misuse) files
  | .ok (request, _) => perform program request files

end CallChain.CommandLine

import CallChain.CommandLine.Commands
import CallChain.CommandLine.Duration

/-! The program: looks at the files that a request names, carries it out, and keeps what it left. -/

namespace CallChain.CommandLine

/-- The path of a place, from the root of all files. -/
def pathOf (place : Place) : String :=
  "/" ++ "/".intercalate place

/-- What stands at a place on disk. -/
def inspect (place : Place) : IO (Option FileEntry) := do
  match ← (IO.FS.readBinFile (pathOf place)).toBaseIO with
  | .ok content => return some (.file content.toList)
  -- Reading a directory fails in a way of its own.
  | .error (.inappropriateType _ 21 _) => return some .directory
  | .error _ => return none

/-- Takes over what stands along names from a place, as far as they lead. -/
def survey (files : FileTree) : Place → List String → IO FileTree
  | _, [] => return files
  | place, "." :: rest => survey files place rest
  | place, ".." :: rest => survey files place.dropLast rest
  | place, name :: rest => do
    let next := place ++ [name]
    match ← inspect next with
    | none => return files
    | some entry => survey (files.put next entry) next rest

/-- The tree of the files that paths lead to. -/
def surveyAll (working : Place) (paths : List String) : IO FileTree :=
  paths.foldlM (fun files path => survey files (files.origin path) (FileTree.names path))
    { FileTree.empty with working }

/-- Takes over what stands at the places where another tree has something. -/
def surveyAgain (files expected : FileTree) : IO FileTree :=
  expected.entries.foldlM (fun files entry => survey files [] entry.1) files

/-- Writes every file that is not as it was, those that were made first before the others. -/
def keep (before after : FileTree) : IO Unit :=
  for (place, entry) in after.entries.reverse do
    if before.entry? place != some entry then
      match entry with
      | .file content => IO.FS.writeBinFile (pathOf place) ⟨content.toArray⟩
      | .directory => IO.FS.createDirAll (pathOf place)

/-- What this program goes by. -/
def thisProgram : Program := ⟨"callchain", "0.2.0", "callchain"⟩

end CallChain.CommandLine

open CallChain CallChain.CommandLine in
/-- Runs the command that the arguments ask for. -/
def main (arguments : List String) : IO UInt32 := do
  let started ← IO.monoNanosNow
  let (paths, verbosity) := match parse arguments with
    | .ok (request, verbosity) => (request.paths, verbosity)
    | .error _ => ([], 0)
  let working := FileTree.names (← IO.currentDir).toString
  let surveyed ← surveyAll working paths
  -- Only the work itself tells which further files it writes, so these are looked at after a trial.
  let files ← surveyAgain surveyed (execute thisProgram arguments surveyed).files
  let outcome := execute thisProgram arguments files
  keep files outcome.files
  let elapsed := durationText ((← IO.monoNanosNow) - started)
  IO.print (Piece.render elapsed outcome.printed)
  for line in outcome.diagnostics verbosity do
    IO.eprintln line
  return outcome.exit

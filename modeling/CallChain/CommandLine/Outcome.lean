import CallChain.FileTree
import CallChain.Notice

/-! What a command prints and leaves behind. -/

namespace CallChain.CommandLine

/-- A piece of printed text. -/
inductive Piece where
  | text (content : String)
  /-- How long the work has taken, which only a clock can tell. -/
  | elapsed
deriving DecidableEq, Repr

namespace Piece

/-- The printed text once the time taken is known. -/
def render (elapsed : String) (pieces : List Piece) : String :=
  String.join (pieces.map fun
    | .text content => content
    | .elapsed => elapsed)

/-- Lines of text. -/
def lines (lines : List String) : List Piece :=
  lines.map fun line => .text (line ++ "\n")

end Piece

/-- A command that is over. -/
structure Outcome where
  exit : UInt32
  printed : List Piece
  /-- What stopped the command, if anything did. -/
  failure : Option String
  files : FileTree
  notices : List Notice

namespace Outcome

/-- A command that has done its work. -/
def success (printed : List Piece) (files : FileTree) (notices : List Notice) : Outcome :=
  ⟨0, printed, none, files, notices⟩

/-- A command that was stopped. -/
def failed (message : String) (printed : List Piece) (files : FileTree)
    (notices : List Notice) : Outcome :=
  ⟨1, printed, some s!"\nError: {message}", files, notices⟩

/-- Arguments that make no sense. -/
def misused (message : String) (files : FileTree) : Outcome :=
  ⟨2, [], some message, files, []⟩

/-- What goes to the error stream: log records worth `verbosity`, then what stopped the command. -/
def diagnostics (outcome : Outcome) (verbosity : Nat) : List String :=
  let shown := outcome.notices.filter fun notice =>
    match notice.level with
    | .warn => true
    | .debug => 1 ≤ verbosity
    | .trace => 2 ≤ verbosity
  shown.map (fun notice => s!"{notice.level.name} {notice.text}") ++ outcome.failure.toList

end Outcome

end CallChain.CommandLine

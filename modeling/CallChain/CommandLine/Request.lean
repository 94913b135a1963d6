import CallChain.CommandLine.Help

/-! What the program can be asked to do. -/

namespace CallChain.CommandLine

/-- Lower every node of a document and print the plans. -/
structure CompileRequest where
  document : String
  /-- Whether the document is written as a sheet. -/
  sheet : Bool
  /-- Where the document is saved to, if it is. -/
  output : Option String
deriving DecidableEq, Repr

/-- Lower a document and run every plan against a manager for a catalog. -/
structure RunRequest where
  document : String
  sheet : Bool
  catalog : String
  /-- Where the values that other nodes supply are, if there are any. -/
  inputs : Option String
  /-- Whether property steps without effect are reported. -/
  diagnostics : Bool
deriving DecidableEq, Repr

/-- Carry out slot commands on one node and save the document. -/
structure EditRequest where
  document : String
  node : String
  commands : String
  /-- Where the document is saved to, if not where it came from. -/
  output : Option String
deriving DecidableEq, Repr

/-- What the program is asked to do. -/
inductive Request where
  | compile (request : CompileRequest)
  | run (request : RunRequest)
  | edit (request : EditRequest)
  | help (topic : Topic)
  | version
deriving DecidableEq, Repr

/-- The files that a request reads or writes. -/
def Request.paths : Request → List String
  | compile request => request.document :: request.output.toList
  | run request => request.document :: request.catalog :: request.inputs.toList
  | edit request => request.document :: request.commands :: request.output.toList
  | help _ | version => []

/-- The words that a command takes, if as many are given as it wants. -/
def checkWords : (wanted : List WordShape) → (given : List String) → Except Misuse Unit
  | word :: _, [] => .error (.missing word.placeholder)
  | _ :: wanted, _ :: given => checkWords wanted given
  | [], word :: _ => .error (.surplus word)
  | [], [] => .ok ()

/-- The request of a command with its arguments. -/
def requestOf (command : Command) (sorted : Sorted) : Except Misuse Request := do
  if sorted.has "help" then
    -- Help takes the place of words that are missing, not of those that are too many.
    if let word :: _ := sorted.words.drop command.shape.words.length then throw (.surplus word)
    return .help (.command command)
  checkWords command.shape.words sorted.words
  match command, sorted.words with
  | .compile, [document] =>
    return .compile ⟨document, sorted.has "sheet", sorted.value? "output"⟩
  | .run, [document] =>
    match sorted.value? "catalog" with
    | none => throw (.missing catalogOption.written)
    | some catalog =>
      return .run ⟨document, sorted.has "sheet", catalog, sorted.value? "inputs",
        sorted.has "diagnostics"⟩
  | .edit, [document, node, commands] =>
    return .edit ⟨document, node, commands, sorted.value? "output"⟩
  | _, _ => throw (.missing "an argument")

/-- What help is asked for by the words after the command that prints it. -/
def topicOf : List String → Except Misuse Topic
  | [] => .ok .program
  | name :: others => do
    let topic ←
      if name == helpShape.name then pure Topic.help
      else
        match Command.ofName? name with
        | none => throw (.unknown name)
        | some command => pure (Topic.command command)
    -- No command has commands of its own.
    match others with
    | [] => return topic
    | other :: _ => throw (.unknown other)

/-- The options that stand before the command, the command, and the arguments after it. -/
def splitCommand (arguments : List String) : List String × List String :=
  arguments.span fun argument => looksLikeOption argument.toList

/-- The request that arguments make, with the number of times more log output is asked for.

What is asked for after the command counts more than what is asked for before it. -/
def parse (arguments : List String) : Except Misuse (Request × Nat) := do
  let (before, rest) := splitCommand arguments
  let leading ← sort leadingOptions before
  if leading.has "help" then return (.help .program, 0)
  if leading.has "version" then return (.version, 0)
  -- A double dash makes plain words of the arguments after it, so none of them is a command.
  if before.contains "--" then throw (.missing "a command")
  match rest with
  | [] => throw (.missing "a command")
  | name :: rest =>
    if name == helpShape.name then return (.help (← topicOf rest), 0)
    match Command.ofName? name with
    | none => throw (.unknown name)
    | some command =>
      let sorted ← sort command.shape.options rest
      let request ← requestOf command sorted
      let counted := if sorted.has "verbose" then sorted else leading
      return (request, counted.count "verbose")

end CallChain.CommandLine

import CallChain.CommandLine.Arguments

/-! The commands that can be given, and the words and options that each of them takes. -/

namespace CallChain.CommandLine

/-- A word that a command wants. -/
structure WordShape where
  name : String
  /-- Whether there may be any number of them, also none. -/
  anyNumber : Bool := false
  /-- What the word is, in words. -/
  about : String := ""
deriving DecidableEq, Repr

/-- What can be given to a command. -/
structure CommandShape where
  name : String
  /-- What the command does, in words. -/
  about : String
  words : List WordShape
  /-- The options, as they are to be listed. -/
  options : List OptionShape
deriving DecidableEq, Repr

/-- The option for more log output. -/
def verboseOption : OptionShape where
  long := "verbose"
  short := some 'v'
  repeats := true
  about := "Increase log output (-v debug, -vv trace)"

/-- The option for help. -/
def helpOption : OptionShape where
  long := "help"
  short := some 'h'
  isLast := true
  about := "Print help"

/-- The option for the version of the program. -/
def versionOption : OptionShape where
  long := "version"
  short := some 'V'
  isLast := true
  about := "Print version"

/-- The options that stand before a command. -/
def leadingOptions : List OptionShape :=
  [verboseOption, helpOption, versionOption]

/-- The option for a sheet in place of a document. -/
def sheetOption : OptionShape where
  long := "sheet"

/-- The option for the file to write. -/
def outputOption : OptionShape where
  long := "output"
  short := some 'o'
  takesValue := true

/-- The option for the catalog of a manager. -/
def catalogOption : OptionShape where
  long := "catalog"
  short := some 'c'
  takesValue := true
  required := true
  about := "JSON catalog of creatable items and their properties"

/-- The option for the values that other nodes supply. -/
def inputsOption : OptionShape where
  long := "inputs"
  short := some 'i'
  takesValue := true
  about := "JSON list of upstream values: [\x7b\"node\", \"pin\", \"value\"\x7d]"

/-- The option for a report on property steps without effect. -/
def diagnosticsOption : OptionShape where
  long := "diagnostics"
  short := some 'd'
  about := "Report properties that could not be bound"

/-- The document that a command reads. -/
def documentWord : WordShape where
  name := "document"

/-- The commands that work on documents. -/
inductive Command where
  | compile
  | run
  | edit
deriving DecidableEq, Repr

namespace Command

/-- What can be given to a command. -/
def shape : Command → CommandShape
  | compile =>
    { name := "compile"
      about := "Lower every node of a document and print the expansion plans"
      words := [{ documentWord with
        about := "Graph document (.json) or authoring sheet with --sheet" }]
      options :=
        [{ sheetOption with about := "Treat the input as a flat authoring sheet" },
          verboseOption,
          { outputOption with
            about := "Write the validated document to this path (.json or binary)" },
          helpOption] }
  | run =>
    { name := "run"
      about := "Lower a document and run every plan against an in-memory manager"
      words := [documentWord]
      options :=
        [catalogOption, verboseOption, inputsOption, sheetOption, diagnosticsOption, helpOption] }
  | edit =>
    { name := "edit"
      about := "Apply a JSON list of slot commands to one node and save the document"
      words :=
        [documentWord,
          { name := "node", about := "Id of the node to edit" },
          { name := "commands", about := "JSON list of slot commands" }]
      options :=
        [{ outputOption with
            about := "Where to write the result (defaults to overwriting the input)" },
          verboseOption,
          helpOption] }

/-- All commands, as they are to be listed. -/
def all : List Command := [compile, run, edit]

/-- The command of a name. -/
def ofName? (name : String) : Option Command :=
  all.find? fun command => command.shape.name == name

end Command

/-- What can be given to the command that prints help. -/
def helpShape : CommandShape where
  name := "help"
  about := "Print this message or the help of the given subcommand(s)"
  words := [{ name := "command", anyNumber := true, about := "Print help for the subcommand(s)" }]
  options := []

end CallChain.CommandLine

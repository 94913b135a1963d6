import CallChain.CommandLine.Shape
import CallChain.Text.Blank

/-! Pages of help: what the program or one of its commands does, and what it takes. -/

namespace CallChain.CommandLine

/-- What the program goes by. -/
structure Program where
  name : String
  version : String
  /-- The word that starts the program. -/
  command : String
deriving DecidableEq, Repr

/-- What help can be about. -/
inductive Topic where
  | program
  | command (command : Command)
  /-- The command that prints help. -/
  | help
deriving DecidableEq, Repr

/-- What the program is for. -/
def purpose : String :=
  "Authoring, lowering and test-running tool for create-or-show node graphs"

/-- How a word is written where it is only described. -/
def WordShape.placeholder (word : WordShape) : String :=
  if word.anyNumber then s!"[{word.name.toUpper}]..." else s!"<{word.name.toUpper}>"

namespace OptionShape

/-- How an option is written out, with what follows it. -/
def written (option : OptionShape) : String :=
  let value := if option.takesValue then s!" <{option.long.toUpper}>" else ""
  let more := if option.repeats then "..." else ""
  s!"--{option.long}{value}{more}"

/-- How an option is listed; all long names start below each other. -/
def listed (option : OptionShape) : String :=
  match option.short with
  | some letter => s!"-{letter}, {option.written}"
  | none => s!"    {option.written}"

end OptionShape

/-- One part of a page: what can be given, and what each of it means. -/
structure HelpSection where
  title : String
  rows : List (String × String)
deriving DecidableEq, Repr

namespace HelpSection

/-- The number of characters of the longest text on the left. -/
def width (part : HelpSection) : Nat :=
  part.rows.foldl (fun width row => max width row.1.length) 0

/-- The lines of a part; what the rows mean starts two characters after the longest of them. -/
def lines (part : HelpSection) : List String :=
  s!"{part.title}:" :: part.rows.map fun (given, meaning) =>
    s!"  {Text.padRight (part.width + 2) given}{meaning}"

end HelpSection

/-- The part about options. -/
def optionSection (options : List OptionShape) : HelpSection :=
  ⟨"Options", options.map fun option => (option.listed, option.about)⟩

/-- The part about words. -/
def wordSection (words : List WordShape) : HelpSection :=
  ⟨"Arguments", words.map fun word => (word.placeholder, word.about)⟩

/-- The part about commands. -/
def commandSection : HelpSection :=
  ⟨"Commands", (Command.all.map Command.shape ++ [helpShape]).map fun shape =>
    (shape.name, shape.about)⟩

/-- How a command is used; options that have to be there are named, the others only hinted at. -/
def CommandShape.usage (shape : CommandShape) (program : Program) : String :=
  let free := shape.options.any fun option => !option.required && !option.isLast
  let required := (shape.options.filter OptionShape.required).map OptionShape.written
  " ".intercalate ([program.command, shape.name] ++ (if free then ["[OPTIONS]"] else [])
    ++ required ++ shape.words.map WordShape.placeholder)

namespace Topic

/-- What a page says first. -/
def about : Topic → String
  | .program => purpose
  | .command asked => asked.shape.about
  | .help => helpShape.about

/-- How that is used which a page is about. -/
def usage (program : Program) : Topic → String
  | .program => s!"{program.command} [OPTIONS] <COMMAND>"
  | .command asked => asked.shape.usage program
  | .help => helpShape.usage program

/-- The parts of a page. -/
def sections : Topic → List HelpSection
  | .program => [commandSection, optionSection leadingOptions]
  | .command asked =>
    [wordSection asked.shape.words, optionSection asked.shape.options]
  | .help => [wordSection helpShape.words]

/-- The lines of a page, with an empty line between its parts. -/
def page (program : Program) (topic : Topic) : List String :=
  [topic.about, "", s!"Usage: {topic.usage program}"]
    ++ topic.sections.flatMap fun part => "" :: part.lines

end Topic

end CallChain.CommandLine

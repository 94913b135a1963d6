import CallChain.Json.Syntax
import CallChain.Number.Form

/-! Writing syntax trees as JSON texts, on one line or indented. -/

namespace CallChain.Json

/-- One character between the quotes of a written text. -/
def escapeChar (c : Char) : List Char :=
  if c = '"' then ['\\', '"']
  else if c = '\\' then ['\\', '\\']
  else if c.toNat = 8 then ['\\', 'b']
  else if c.toNat = 9 then ['\\', 't']
  else if c.toNat = 10 then ['\\', 'n']
  else if c.toNat = 12 then ['\\', 'f']
  else if c.toNat = 13 then ['\\', 'r']
  else if c.toNat < 0x20 then
    ['\\', 'u', '0', '0', Nat.digitChar (c.toNat / 16), Nat.digitChar (c.toNat % 16)]
  else [c]

/-- A text in quotes. -/
def writeString (text : String) : List Char :=
  '"' :: text.toList.flatMap escapeChar ++ ['"']

/-- A number; a NaN and the infinities have no spelling and become null. -/
def writeNumber : Number → List Char
  | .natural value => Nat.toDigits 10 value.toNat
  | .negative value => '-' :: Nat.toDigits 10 value.toInt.natAbs
  | .float value => if value.isFinite then (value.write .stored).toList else "null".toList

/-- A value without parts. -/
def writeScalar : Json → List Char
  | .bool true => "true".toList
  | .bool false => "false".toList
  | .number value => writeNumber value
  | .string text => writeString text
  | _ => "null".toList

mutual

/-- A value on one line, without blanks. -/
def writeCompact : Json → List Char
  | .array items => '[' :: compactItems items ++ [']']
  | .object members => '\x7b' :: compactMembers members ++ ['\x7d']
  | scalar => writeScalar scalar

/-- Items with commas between them. -/
def compactItems : List Json → List Char
  | [] => []
  | [item] => writeCompact item
  | item :: rest => writeCompact item ++ ',' :: compactItems rest

/-- Members with commas between them. -/
def compactMembers : List (String × Json) → List Char
  | [] => []
  | [(name, content)] => writeString name ++ ':' :: writeCompact content
  | (name, content) :: rest =>
    writeString name ++ ':' :: writeCompact content ++ ',' :: compactMembers rest

end

/-- The start of an indented line. -/
def newLine (depth : Nat) : List Char :=
  '\n' :: List.replicate (2 * depth) ' '

mutual

/-- A value over several lines, its parts indented two blanks deeper than itself. -/
def writePretty (depth : Nat) : Json → List Char
  | .array [] => ['[', ']']
  | .array items =>
    '[' :: newLine (depth + 1) ++ prettyItems (depth + 1) items ++ newLine depth ++ [']']
  | .object [] => ['\x7b', '\x7d']
  | .object members =>
    '\x7b' :: newLine (depth + 1) ++ prettyMembers (depth + 1) members ++ newLine depth ++ ['\x7d']
  | scalar => writeScalar scalar

/-- Items on lines of their own. -/
def prettyItems (depth : Nat) : List Json → List Char
  | [] => []
  | [item] => writePretty depth item
  | item :: rest => writePretty depth item ++ ',' :: newLine depth ++ prettyItems depth rest

/-- Members on lines of their own. -/
def prettyMembers (depth : Nat) : List (String × Json) → List Char
  | [] => []
  | [(name, content)] => writeString name ++ ':' :: ' ' :: writePretty depth content
  | (name, content) :: rest =>
    writeString name ++ ':' :: ' ' :: writePretty depth content
      ++ ',' :: newLine depth ++ prettyMembers depth rest

end

/-- The text of a value on one line. -/
def compact (json : Json) : String :=
  String.ofList (writeCompact json)

/-- The text of a value over several lines. -/
def pretty (json : Json) : String :=
  String.ofList (writePretty 0 json)

end CallChain.Json

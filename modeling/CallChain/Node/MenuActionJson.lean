import CallChain.Node.MenuAction
import CallChain.Value.Json

/-! Menu actions as they are sent: records whose `op` names the action. -/

namespace CallChain

namespace Json

/-- How deep arrays and objects may nest in a text. -/
def deepest : Nat := 127

/-- Takes the only member of a name out of an object. -/
def takeMember (name : String) (members : List (String × Json)) :
    Except Fault (Json × List (String × Json)) :=
  match members.filter (·.1 == name) with
  | [] => .error (.missing name)
  | [(_, content)] => .ok (content, members.filter (·.1 != name))
  | _ => .error (.repeated name)

/-- A record with a member that tells its kind, or a list that starts with its kind.

Until its kind is known every part of it is kept, so every part needs a value, and `depth` limits
their nesting. -/
def labelled (label : String) (depth : Nat) : Decoder (String × Json) := fun json =>
  if !json.fits depth then .error .unreadable
  else
    match json with
    | object members => do
      let (kind, rest) ← takeMember label members
      return (← text kind, object rest)
    | array (kind :: rest) => do return (← text kind, array rest)
    | array [] => .error (.missing label)
    | _ => .error (.expected "a record")

/-- A name without content, which in a kept record may also hold an empty object. -/
def keptName {α : Type} (ofName? : String → Option α) : Decoder α
  | object [(tag, object [])] => named ofName? (string tag)
  | json => named ofName? json

end Json

namespace MenuAction

/-- The field that holds a slot id. -/
def slotField : Json.Field := .plain "slot"

/-- The field that holds a type. -/
def typeField : Json.Field := .plain "type"

/-- Reads a type inside a menu action. -/
def typeOfJson : Json.Decoder ValueType :=
  Json.keptName ValueType.ofName?

/-- Reads a menu action whose arrays and objects nest at most `depth` deep. -/
def ofJson (depth : Nat) : Json.Decoder MenuAction := fun json => do
  let (op, content) ← Json.labelled "op" depth json
  match op with
  | "add" =>
    let found ← Json.record [{ name := "name", mayBeCut := true }, typeField] content
    return add (← found.optional "name" Json.text) (← found.required "type" typeOfJson)
  | "remove" =>
    let found ← Json.record [slotField] content
    return remove ⟨← found.required "slot" Json.word32⟩
  | "rename" =>
    let suffix : Json.Field := { name := "auto_suffix", mayBeCut := true }
    let found ← Json.record [slotField, .plain "name", suffix] content
    let slot ← found.required "slot" Json.word32
    let name ← found.required "name" Json.text
    return rename ⟨slot⟩ name (← found.orElse "auto_suffix" false Json.boolean)
  | "retype" =>
    let found ← Json.record [slotField, typeField] content
    return retype ⟨← found.required "slot" Json.word32⟩ (← found.required "type" typeOfJson)
  | _ => throw (.expected "a menu action")

/-- Reads a text that holds one menu action. -/
def one : Json.Decoder MenuAction :=
  ofJson Json.deepest

/-- Reads a text that holds a list of menu actions. -/
def several : Json.Decoder (List MenuAction) :=
  -- The list around the menu actions takes one level of nesting.
  Json.list (ofJson (Json.deepest - 1))

end MenuAction

end CallChain

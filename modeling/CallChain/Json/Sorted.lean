import CallChain.Json.Syntax

/-! Objects with one member for each name, in the order of the names. -/

namespace CallChain.Json

/-- Puts a member into an ordered list, in place of one of the same name. -/
def insertMember (name : String) (content : Json) : List (String × Json) → List (String × Json)
  | [] => [(name, content)]
  | (other, kept) :: rest =>
    if name = other then (name, content) :: rest
    else if name < other then (name, content) :: (other, kept) :: rest
    else (other, kept) :: insertMember name content rest

mutual

/-- The value with the members of all its objects in order; the last of equal names stays. -/
def sorted : Json → Json
  | .array items => .array (sortedItems items)
  | .object members => .object (sortedMembers members [])
  | scalar => scalar

/-- The items with their objects in order. -/
def sortedItems : List Json → List Json
  | [] => []
  | item :: rest => sorted item :: sortedItems rest

/-- The members added one after the other to those already in order. -/
def sortedMembers : (members done : List (String × Json)) → List (String × Json)
  | [], done => done
  | (name, content) :: rest, done => sortedMembers rest (insertMember name (sorted content) done)

end

end CallChain.Json

import CallChain.Text.Blank

/-! The closed set of types a parameter can have. -/

namespace CallChain

/-- The type of a parameter, of a literal and of whatever an output produces. -/
inductive ValueType where
  | boolean
  | integer
  | float
  | string
  | text
  | object
deriving DecidableEq, Repr, Inhabited

namespace ValueType

/-- Every type, in the order menus list them. -/
def all : List ValueType :=
  [boolean, integer, float, string, text, object]

/-- The name shown to authors and stored in documents. -/
def name : ValueType → String
  | boolean => "Boolean"
  | integer => "Integer"
  | float => "Float"
  | string => "String"
  | text => "Text"
  | object => "Object"

/-- Whether an input of type `expected` takes values of type `source`. -/
def accepts (expected source : ValueType) : Bool :=
  -- Integers widen into floats; nothing else converts.
  expected == source || expected == float && source == integer

/-- The lower-case form of the ASCII letters of a text. -/
def folded (text : String) : List Char :=
  text.toList.map Char.toLower

/-- The type an author names, whatever the case and the blanks around it. -/
def parse? (text : String) : Option ValueType :=
  all.find? fun type => folded type.name == folded (Text.trim text)

/-- The type of exactly this name. -/
def ofName? (text : String) : Option ValueType :=
  all.find? fun type => type.name == text

end ValueType

end CallChain

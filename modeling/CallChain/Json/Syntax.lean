import CallChain.Number.Binary64

/-! The syntax trees of JSON texts. -/

namespace CallChain

namespace Json

/-- The first natural number that no integer of 64 bits reaches. -/
def firstTooLarge : Nat := 9223372036854775808

/-- A number of a text: without point, exponent and fraction it is an integer of 64 bits. -/
inductive Number where
  | natural (value : UInt64)
  /-- An integer below zero. -/
  | negative (value : Int64)
  | float (value : Binary64)
deriving DecidableEq, Repr, Inhabited

end Json

/-- A JSON text. Objects keep the order of their members and repeated names. -/
inductive Json where
  | null
  | bool (value : Bool)
  | number (value : Json.Number)
  | string (value : String)
  | array (items : List Json)
  | object (members : List (String × Json))
  /-- Grammatical, but without a value: an unpaired surrogate, or a number out of range. -/
  | valueless
deriving Inhabited

namespace Json

mutual

/-- Whether every part has a value and arrays and objects nest at most `depth` deep. -/
def fits : (depth : Nat) → Json → Bool
  | _, null => true
  | _, bool _ => true
  | _, number _ => true
  | _, string _ => true
  | _, valueless => false
  | 0, array _ => false
  | 0, object _ => false
  | depth + 1, array items => allFit depth items
  | depth + 1, object members => membersFit depth members

/-- Whether every item fits. -/
def allFit : (depth : Nat) → List Json → Bool
  | _, [] => true
  | depth, item :: rest => fits depth item && allFit depth rest

/-- Whether the content of every member fits. -/
def membersFit : (depth : Nat) → List (String × Json) → Bool
  | _, [] => true
  | depth, (_, content) :: rest => fits depth content && membersFit depth rest

end

end Json

end CallChain

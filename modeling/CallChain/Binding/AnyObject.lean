import CallChain.Binding.Bag
import CallChain.Binding.Banner

/-! Objects of several kinds under one type, for managers that hold them side by side. -/

namespace CallChain

/-- An object of one of the kinds that can be bound to. -/
inductive AnyObject where
  | bag (target : Bag)
  | sealedBag (target : SealedBag)
  | banner (target : Banner)
deriving DecidableEq, Repr

namespace AnyObject

/-- The name of the object's type. -/
def typeName : AnyObject → String
  | bag target => Bindable.typeName target
  | sealedBag target => Bindable.typeName target
  | banner target => Bindable.typeName target

/-- The property of a name, if the object has it. -/
def find? : AnyObject → String → Option PropertyKey
  | bag target => Bindable.find? target
  | sealedBag target => Bindable.find? target
  | banner target => Bindable.find? target

/-- The object after it was offered a value for a property, and whether it took the value. -/
def assign (object : AnyObject) (property : PropertyKey) (value : Value) : AnyObject × Bool :=
  match object with
  | bag target => (Bindable.assign target property value).map bag id
  | sealedBag target => (Bindable.assign target property value).map sealedBag id
  | banner target => (Bindable.assign target property value).map banner id

instance : Bindable AnyObject where
  typeName := typeName
  find? := find?
  assign := assign

end AnyObject

end CallChain

/-! Records of what an operation did, for whoever follows the log. -/

namespace CallChain

/-- How much attention a record deserves. -/
inductive Level where
  | warn
  | debug
  | trace
deriving DecidableEq, Repr

namespace Level

/-- The name of a level in a log. -/
def name : Level → String
  | warn => "WARN"
  | debug => "DEBUG"
  | trace => "TRACE"

end Level

/-- One record of the log. -/
structure Notice where
  level : Level
  text : String
deriving DecidableEq, Repr

end CallChain

import CallChain.Json.Fields
import CallChain.Json.Reader

/-! Reading typed data from texts. -/

namespace CallChain.Json

/-- Reads data from a text, which has to be one JSON value. -/
def parse {α : Type} (decoder : Decoder α) (text : String) : Except Fault α :=
  match read? text with
  | none => .error .malformed
  | some json => decoder json

end CallChain.Json

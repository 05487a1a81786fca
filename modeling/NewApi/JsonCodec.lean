import Mathlib.Init

/-!
# Values with a text

`encoding/json` writes a value as a text and reads it back. Other texts may stand for the
same value, and some texts stand for none.
-/

namespace NewApi

structure JsonCodec (Value : Type) where
  marshal : Value → String
  unmarshal : String → Option Value
  unmarshal_marshal : ∀ value, unmarshal (marshal value) = some value

end NewApi

/-!
# RBinding.Parameter

The declared parameters of a callable, as they are described to the scaffolding.
-/

namespace RBinding

/-- A declared parameter. `aliases` are other names under which documentation may speak of it; a
default without a literal is written as `None`. -/
structure Parameter where
  name : String
  hasDefault : Bool := false
  defaultLiteral : Option String := none
  aliases : List String := []
  deriving DecidableEq, Repr, Inhabited

/-- The text of the default in a header. -/
def Parameter.defaultText (p : Parameter) : String :=
  p.defaultLiteral.getD "None"

end RBinding

import RBinding.Table

/-!
# RBinding.DocBlock

Documentation of a callable in parts: title, description, a text for each documented parameter,
what is returned, and further named sections.
-/

namespace RBinding

structure DocBlock where
  title : String := ""
  description : String := ""
  parameters : Table String := .empty
  returns : String := ""
  sections : Table String := .empty
  deriving DecidableEq, Repr, Inhabited

namespace DocBlock

/-- The documentation of one parameter; empty if there is none. -/
def parameter (doc : DocBlock) (name : String) : String :=
  (doc.parameters.get? name).getD ""

def isEmpty (doc : DocBlock) : Bool :=
  doc.title.isEmpty && doc.description.isEmpty && doc.parameters.isEmpty && doc.returns.isEmpty &&
    doc.sections.isEmpty

end DocBlock

end RBinding

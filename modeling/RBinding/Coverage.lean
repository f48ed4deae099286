import RBinding.DocBlock
import RBinding.Double.Layout
import RBinding.Parameter

/-!
# RBinding.Coverage

How well documentation covers the declared parameters. `check` reports what is missing: a title,
the documentation of a declared parameter, and the parameter for a documented name. In a strict
check an undocumented parameter is an error, otherwise a warning; the rest are warnings always.
`share` is the part of the declared parameters that is documented, as an exact fraction; it is 1 if
there are none.
-/

namespace RBinding
namespace Coverage

inductive Finding where
  | title
  | documentation (parameter : String)
  | parameter (documented : String)
  deriving DecidableEq, Repr

def Finding.message : Finding → String
  | .title => "missing title (undocumented)"
  | .documentation name => s!"{name}: no parameter documentation"
  | .parameter name => s!"{name}: documented but not a declared parameter"

structure Report where
  errors : List Finding := []
  warnings : List Finding := []
  deriving DecidableEq, Repr, Inhabited

def isDocumented (doc : DocBlock) (p : Parameter) : Bool :=
  !(doc.parameter p.name).isEmpty

def titleFindings (doc : DocBlock) : List Finding :=
  if doc.title.isEmpty then [.title] else []

def undocumented (parameters : List Parameter) (doc : DocBlock) : List Finding :=
  (parameters.filter (!isDocumented doc ·)).map fun p => .documentation p.name

def undeclared (parameters : List Parameter) (doc : DocBlock) : List Finding :=
  (doc.parameters.keys.filter fun name => !(parameters.map (·.name)).contains name).map .parameter

def check (parameters : List Parameter) (doc : DocBlock) (strict : Bool) : Report :=
  if strict then
    { errors := undocumented parameters doc
      warnings := titleFindings doc ++ undeclared parameters doc }
  else
    { warnings := titleFindings doc ++ undocumented parameters doc ++ undeclared parameters doc }

/-- A part of a number of things, as an exact fraction; all of nothing is 1. -/
structure Share where
  part : Nat
  whole : Nat
  deriving DecidableEq, Repr, Inhabited

namespace Share

def toDouble (s : Share) : Double :=
  if s.whole = 0 then Double.ofRatio false 1 1 else Double.ofRatio false s.part s.whole

def text (s : Share) : String :=
  s.toDouble.text

/-- The share in whole percent, taken from its double; a half goes to the even neighbour. -/
def percent (s : Share) : Nat :=
  (s.toDouble.scale 100).roundAbs

end Share

def share (parameters : List Parameter) (doc : DocBlock) : Share :=
  ⟨(parameters.filter (isDocumented doc)).length, parameters.length⟩

end Coverage
end RBinding

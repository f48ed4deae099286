/-!
# RBinding.Text.CodeRange

Classes of characters given by tables of code-point ranges. A range is a pair of its first and its
last member; a table is a list of ranges in ascending order, and `CodeRange.covers` asks whether
one of them holds the character.
-/

namespace RBinding
namespace Text

/-- A range of code points, both ends included. -/
structure CodeRange where
  first : Nat
  last : Nat
  deriving DecidableEq, Repr

namespace CodeRange

def holds (r : CodeRange) (c : Char) : Bool :=
  r.first ≤ c.toNat && c.toNat ≤ r.last

def covers (table : List CodeRange) (c : Char) : Bool :=
  table.any (·.holds c)

end CodeRange

end Text
end RBinding

import RBinding.Symbol

/-!
# RBinding.AccessPath

Access paths of Python objects, such as `pkg.mod.f` or `pkg$mod$f`. Dots and dollar signs separate
the segments, and empty segments do not count, so any run of separators is one, also at the ends.

In R the object is reached by `accessor`, a chain of symbols joined by dollar signs. A wrapper is
named after the last segment (`derivedName`).
-/

namespace RBinding
namespace AccessPath

def isSeparator (c : Char) : Bool :=
  c == '.' || c == '$'

def segments (target : String) : List String :=
  ((target.toList.splitOnP isSeparator).filter (!·.isEmpty)).map String.ofList

def dotted (segments : List String) : String :=
  ".".intercalate segments

def accessor (target : String) : String :=
  "$".intercalate ((segments target).map symbol)

/-- The name of a wrapper whose target leaves none. -/
def fallbackName : String := "wrapper"

def withoutUnderscores (name : String) : String :=
  String.ofList (name.toList.dropWhile (· == '_'))

def baseName (target : String) : String :=
  match (segments target).getLast? with
  | none => fallbackName
  | some segment =>
    let name := withoutUnderscores segment
    if name.isEmpty then fallbackName else name

/-- The name of the wrapper for a target; a prefix that is not empty is put in front. -/
def derivedName (target : String) (namePrefix : Option String) : String :=
  match namePrefix with
  | none => baseName target
  | some p => if p.isEmpty then baseName target else p ++ "_" ++ baseName target

end AccessPath
end RBinding

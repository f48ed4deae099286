import RBinding.Text.Quoted
import RBinding.World.Object

/-!
# RBinding.World.Subclass

What may go wrong when classes are made. A class that inherits is announced to the nearest member
`__init_subclass__` above it, which is called with the new class, or with nothing if it is bound to
nothing. That call fails if the member cannot be called so (`Function.callFault?`), and the class
and all that is defined after it are then not made (`definitionFault?`). Inner classes are made
before the class around them.
-/

namespace RBinding
namespace World

def typeFault (message : String) : Failure :=
  .exception ⟨.type, message⟩

def enumeration : List String → String
  | [] => ""
  | [a] => Text.quoted a
  | [a, b] => Text.quoted a ++ " and " ++ Text.quoted b
  | [a, b, c] => Text.quoted a ++ ", " ++ Text.quoted b ++ ", and " ++ Text.quoted c
  | a :: more => Text.quoted a ++ ", " ++ enumeration more

def ParameterKind.isPositional : ParameterKind → Bool
  | .positionalOnly => true
  | .positional => true
  | _ => false

def plural (n : Nat) : String :=
  if n = 1 then "" else "s"

namespace Function

def missingArguments (f : Function) (kind : String) (names : List String) : Failure :=
  typeFault (s!"{f.qualifiedName}() missing {names.length} required {kind} " ++
    s!"argument{plural names.length}: {enumeration names}")

def tooManyArguments (f : Function) (taken given : Nat) : Failure :=
  let verb := if given = 1 then "was" else "were"
  typeFault (s!"{f.qualifiedName}() takes {taken} positional argument{plural taken} " ++
    s!"but {given} {verb} given")

/-- What is wrong with a call by at most one argument, which is given by its position. -/
def callFault? (f : Function) (given : Nat) : Option Failure :=
  let positional := f.formals.filter (·.kind.isPositional)
  let missing := fun (ps : List Formal) => (ps.filter (·.default.isNone)).map (·.name)
  if positional.length < given && !f.formals.any (·.kind == .variadicPositional) then
    some (f.tooManyArguments positional.length given)
  else
    match missing (positional.drop given), missing (f.formals.filter (·.kind == .keywordOnly)) with
    | [], [] => none
    | [], names => some (f.missingArguments "keyword-only" names)
    | names, _ => some (f.missingArguments "positional" names)

end Function

def notCallableType (typeName : String) : Failure :=
  typeFault s!"'{typeName}' object is not callable"

/-- What is wrong with announcing a subclass to a member. -/
def Attribute.announceFault? : Attribute → Option Failure
  | .function f => f.callFault? (if f.effectiveBinding = .toClass then 1 else 0)
  | .value v => some (notCallableType v.typeName)
  | .record _ => some (notCallableType "types.SimpleNamespace")
  | .object c => if c.makesCallables then none else some (notCallableType c.name)
  | _ => none

/-- What is wrong with making a subclass of the first of these classes. -/
def subclassFault? (lineage : List Class) : Option Failure :=
  match lineage.findSome? (·.ownMember? "__init_subclass__") with
  | none => none
  | some a => a.announceFault?

mutual

def classFault? : Class → Option Failure
  | .mk _ ancestors members =>
    match definitionFault? members with
    | some e => some e
    | none => subclassFault? ancestors

def attributeFault? : Attribute → Option Failure
  | .classDef c => classFault? c
  | .record members => definitionFault? members
  | _ => none

/-- The first thing that goes wrong when these definitions are made in order. -/
def definitionFault? : List (String × Attribute) → Option Failure
  | [] => none
  | (_, a) :: more =>
    match attributeFault? a with
    | some e => some e
    | none => definitionFault? more

end

end World
end RBinding

import RBinding.Text.Margin
import RBinding.World.BuiltinDoc
import RBinding.World.Lookup

/-!
# RBinding.World.Documentation

The documentation of an object. Its own documentation counts, even if it is empty. A class without
any takes that of its nearest ancestor, and a function or method of a class that of the member of
the same name in the nearest ancestor that has some, whatever that member is; members that every
class has are documented too. A function inherits only if its qualified name leads to the class
that has it. An instance has the documentation of its own class alone.

To the documentation of a class that of its own constructor is added, unless it says the same or
only what is said of every constructor.
-/

namespace RBinding
namespace World

def Attribute.ownDoc : Attribute → Option String
  | .function f => f.doc
  | .classDef c => c.doc
  | .object c => c.doc
  | .record _ => some recordDoc
  | .value v => v.typeDoc?
  | .unsigned _ doc _ => doc
  | .failing _ => none

/-- The first documentation of a member of this name along a line of classes. -/
def memberDoc (lineage : List Class) (name : String) : Option String :=
  match lineage.findSome? fun c => (c.ownMember? name).bind Attribute.ownDoc with
  | some doc => some doc
  | none => rootDoc? name

/-- The class that the qualified name of a function leads to, if it has the function. -/
def owningClass? (w : World) (imported : Imports) (f : Function) :
    Except Failure (Option Class) :=
  match walk w imported (.module f.definition.module) (f.qualifiedName.splitOn ".").dropLast with
  | .ok (.classDef c) =>
    match getAttribute w imported (.classDef c) f.name with
    | .ok (.function g) => .ok (if g.definition = f.definition then some c else none)
    | .ok _ => .ok none
    | .error e => .error e
  | .ok _ => .ok none
  | .error e => .error e

/-- Failed lookups of attributes, and lookups on objects of the wrong type, only mean that there is
nothing to inherit. -/
def orNothing (r : Except Failure (Option Class)) : Except Failure (Option Class) :=
  match r with
  | .error (.exception ⟨.attribute, _⟩) => .ok none
  | .error (.exception ⟨.type, _⟩) => .ok none
  | r => r

def functionDoc (w : World) (imported : Imports) (f : Function) : Except Failure (Option String) :=
  match f.doc with
  | some doc => .ok (some doc)
  | none =>
    match orNothing (owningClass? w imported f) with
    | .error e => .error e
    | .ok none => .ok none
    | .ok (some c) => .ok (memberDoc c.lineage f.name)

/-- The documentation of a class, possibly that of an ancestor. -/
def classDoc (c : Class) : Option String :=
  c.lineage.findSome? (·.doc)

def rawDoc (w : World) (imported : Imports) : Object → Except Failure (Option String)
  | .function f => functionDoc w imported f
  | .method f owner =>
    match f.doc with
    | some doc => .ok (some doc)
    | none => .ok (memberDoc owner.lineage f.name)
  | .classDef c => .ok (classDoc c)
  | .object c => .ok c.doc
  | .unsigned _ doc _ => .ok doc
  | _ => .ok none

/-- The documentation of a constructor that the class itself defines. A function that is not bound
to instances does not inherit any. -/
def initDoc (w : World) (imported : Imports) (c : Class) : Except Failure (Option String) :=
  match c.ownMember? "__init__" with
  | none => .ok none
  | some (.function f) =>
    if f.effectiveBinding = .toInstance then functionDoc w imported f else .ok f.doc
  | some (.classDef k) => .ok (classDoc k)
  | some a => .ok a.ownDoc

def cleaned (doc : Option String) : String :=
  match doc with
  | none => ""
  | some text => Text.cleanText text

def withInitDoc (doc init : String) : String :=
  if init.isEmpty || init == doc || init == commonInitDoc then doc
  else if doc.isEmpty then init
  else doc ++ "\n\n" ++ init

def readDoc (w : World) (imported : Imports) (object : Object) : Except Failure String :=
  match rawDoc w imported object with
  | .error e => .error e
  | .ok doc =>
    match object with
    | .classDef c =>
      match initDoc w imported c with
      | .error e => .error e
      | .ok init => .ok (withInitDoc (cleaned doc) (cleaned init))
    | _ => .ok (cleaned doc)

end World
end RBinding

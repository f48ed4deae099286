import RBinding.Trace
import RBinding.World.Import

/-!
# RBinding.World.Lookup

From an access path to an object. The first segment is replaced once if it is an alias. Then the
longest prefix of the path that can be imported is the module to start from, and the segments
after it are attributes, looked up one after the other.

Prefixes are tried from the longest. One that fails because it does not exist itself, or because a
parent of it does not, is passed over; any other failure means that a module is there and broken,
and is reported as such. A module that has been imported is an attribute of its parent and hides
one of the same name.

An attribute that is not listed for an object is reported missing (`getAttribute`), also one that
every Python object has.
-/

namespace RBinding
namespace World

open AccessPath (segments)

def noSuchAttribute (name : String) : Failure :=
  .exception ⟨.attribute, name⟩

def isMissingAttribute : Failure → Bool
  | .exception ⟨.attribute, _⟩ => true
  | _ => false

/-- The attribute of an object, given what has been imported. -/
def getAttribute (w : World) (imported : Imports) (object : Object) (name : String) :
    Except Failure Object :=
  match object with
  | .module path =>
    if imported.contains (path ++ [name]) then .ok (.module (path ++ [name]))
    else
      match (w.module? path).bind (moduleAttribute? ·.attributes name) with
      | some a => Object.ofAttribute a
      | none => .error (noSuchAttribute name)
  | .classDef c =>
    match c.member? name with
    | some a => Object.ofClassMember c a
    | none => .error (noSuchAttribute name)
  | .object c =>
    match c.member? name with
    | some a => Object.ofInstanceMember c a
    | none => .error (noSuchAttribute name)
  | .record members =>
    match attribute? members name with
    | some a => Object.ofAttribute a
    | none => .error (noSuchAttribute name)
  | _ => .error (noSuchAttribute name)

def walk (w : World) (imported : Imports) : Object → List String → Except Failure Object
  | object, [] => .ok object
  | object, name :: more =>
    match getAttribute w imported object name with
    | .error e => .error e
    | .ok next => walk w imported next more

/-- The segments of a target; an alias stands for the segments of its text. -/
def expand (w : World) (target : String) : List String :=
  match segments target with
  | [] => []
  | first :: more =>
    match w.aliases.get? first with
    | some path => segments path ++ more
    | none => first :: more

/-- The failure says that this module, or a parent of it, does not exist. -/
def reportsMissing (e : Failure) (path : Path) : Bool :=
  match e.missingModule? with
  | none => false
  | some name =>
    !name.isEmpty &&
      (name == dotted path || (name.toList ++ ['.']).isPrefixOf (dotted path).toList)

/-- Imports the longest prefix of a path, trying prefixes of at most the given length. The result
is the length of that prefix, if there is one. -/
def importLongest (w : World) (target : String) (path : Path) :
    Nat → Imports → Imports × Traced (Option Nat)
  | 0, imported => (imported, pure none)
  | n + 1, imported =>
    let tried := path.take (n + 1)
    match w.importModule imported tried with
    | (imported, .ok ()) => (imported, pure (some (n + 1)))
    | (imported, .error e) =>
      if reportsMissing e tried then
        let (imported, found) := importLongest w target path n imported
        (imported, do
          Traced.note (.notAModule (dotted tried) e.message)
          found)
      else if e.isError then
        (imported,
          Traced.fail (.targetNotFound (.importFailed (dotted tried) e.className e.message)
            (some target)))
      else (imported, Traced.fail e)

/-- The attributes after the module, where a missing one is a fault of the target. -/
def walkTarget (w : World) (imported : Imports) (target : String) (module : Path)
    (attributes : List String) : Except Failure Object :=
  match walk w imported (.module module) attributes with
  | .ok object => .ok object
  | .error e =>
    if isMissingAttribute e then
      .error (.targetNotFound (.noAttribute target (dotted attributes)) (some target))
    else .error e

def resolve (w : World) (imported : Imports) (target : String) : Imports × Traced Object :=
  let path := w.expand target
  if path.isEmpty then (imported, Traced.fail (.targetNotFound (.emptyPath target) (some target)))
  else
    let (imported, found) := importLongest w target path path.length imported
    (imported, do
      match ← found with
      | none => Traced.fail (.targetNotFound (.noModule target) (some target))
      | some n => Traced.ofExcept (walkTarget w imported target (path.take n) (path.drop n)))

end World
end RBinding

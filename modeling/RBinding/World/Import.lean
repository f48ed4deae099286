import RBinding.World.Subclass

/-!
# RBinding.World.Import

Importing modules. A module is imported after its parents, from the outside in. What has been
imported is remembered (`Imports`), so it is imported once; a failed import is not remembered,
while the parents imported for it are.

A module that does not exist, and one whose parent is no package, is reported missing by name. A
module may also fail by itself when it is imported, either because a class in it cannot be made or,
after that, by a failure of its own.
-/

namespace RBinding
namespace World

structure Module where
  path : Path
  isPackage : Bool
  attributes : List (String × Attribute)
  failure : Option Failure := none

def Module.fault? (m : Module) : Option Failure :=
  match definitionFault? m.attributes with
  | some e => some e
  | none => m.failure

abbrev Imports := List Path

end World

/-- The modules that can be imported, and short names for the first segment of an access path. -/
structure World where
  modules : List World.Module
  aliases : Table String

namespace World

/-- The module at a path; of several the last. -/
def module? (w : World) (path : Path) : Option Module :=
  w.modules.reverse.find? (·.path == path)

def missingModule (path : Path) (explanation : String) : Failure :=
  .exception
    ⟨.moduleNotFound (some (dotted path)),
      "No module named " ++ Text.quoted (dotted path) ++ explanation⟩

/-- Whether modules can be found inside the one at this path; the empty path is the outside. -/
def holdsModules (w : World) (path : Path) : Bool :=
  path.isEmpty ||
    match w.module? path with
    | some m => m.isPackage
    | none => false

/-- Runs the module at `parent ++ [name]`, whose parents have been imported. -/
def load (w : World) (parent : Path) (name : String) : Except Failure Unit :=
  let path := parent ++ [name]
  if w.holdsModules parent then
    match w.module? path with
    | none => .error (missingModule path "")
    | some m =>
      match m.fault? with
      | some e => .error e
      | none => .ok ()
  else
    .error (missingModule path ("; " ++ Text.quoted (dotted parent) ++ " is not a package"))

def importBelow (w : World) (parent : Path) : List String → Imports → Imports × Except Failure Unit
  | [], imported => (imported, .ok ())
  | name :: more, imported =>
    let path := parent ++ [name]
    if imported.contains path then importBelow w path more imported
    else
      match w.load parent name with
      | .error e => (imported, .error e)
      | .ok () => importBelow w path more (imported ++ [path])

def importModule (w : World) (imported : Imports) (path : Path) : Imports × Except Failure Unit :=
  importBelow w [] path imported

end World
end RBinding

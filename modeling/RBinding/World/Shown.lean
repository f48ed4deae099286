import RBinding.Table
import RBinding.World.Object

/-!
# RBinding.World.Shown

Classes and attributes as messages show them. Values and records of values are written in full,
which fails if a number in them has too many digits. A function or an instance is shown by its name
or its class; where it is kept is not part of a world.
-/

namespace RBinding
namespace World

def ClassHead.shown (h : ClassHead) : String :=
  s!"<class '{dotted h.module}.{h.qualifiedName}'>"

def ClassHead.shownInstance (h : ClassHead) : String :=
  s!"<{dotted h.module}.{h.qualifiedName} object>"

/-- A record with the texts of its members; a name that comes twice has its last text. -/
def recordText? (members : List (String × Option String)) : Option String :=
  let shown := (Table.ofList members).entries.mapM fun (name, text) => text.map (name ++ "=" ++ ·)
  shown.map (Value.bracketed "namespace(" ")")

mutual

def Attribute.shown? : Attribute → Option String
  | .function f => some s!"<function {f.qualifiedName}>"
  | .classDef (.mk head _ _) => some head.shown
  | .object (.mk head _ _) => some head.shownInstance
  | .record members => recordText? (shownMembers members)
  | .value v => v.shown?
  | .unsigned typeName _ _ => some s!"<{typeName} object>"
  | .failing e => some e.message

def shownMembers : List (String × Attribute) → List (String × Option String)
  | [] => []
  | (name, a) :: more => (name, a.shown?) :: shownMembers more

end

end World
end RBinding

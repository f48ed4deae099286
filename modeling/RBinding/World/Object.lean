import RBinding.Failure
import RBinding.Value

/-!
# RBinding.World.Object

The Python side of a binding, as data: functions, classes and other attributes of modules, and the
objects that an access path can lead to.

A class knows the classes it inherits from, nearest first (`Class.ancestors`), and its members are
looked up along that line. A function knows where it was defined (`Function.definition`), which
tells it apart from any other, and its qualified name, which need not lead back to it. A name may
be defined more than once; the last definition counts.

Modules, classes and records have the attributes that are listed for them and no others. Those that
Python gives to every object are not part of this: neither the `__call__` of a function nor the
`__init__` of a class that does not define one can be reached.
-/

namespace RBinding
namespace World

abbrev Path := List String

def dotted (path : Path) : String :=
  ".".intercalate path

inductive ParameterKind where
  | positionalOnly
  | positional
  | variadicPositional
  | keywordOnly
  | variadicKeyword
  deriving DecidableEq, Repr

def ParameterKind.isVariadic : ParameterKind → Bool
  | .variadicPositional => true
  | .variadicKeyword => true
  | _ => false

structure Formal where
  name : String
  kind : ParameterKind := .positional
  default : Option Value := none

/-- What a function in a class is bound to when it is looked up. -/
inductive Binding where
  | toInstance
  | toClass
  | toNothing
  deriving DecidableEq, Repr

/-- Where a function is defined: its module, and its place among the definitions there, as the
number of each definition around it and its own, from the outside in. -/
structure Definition where
  module : Path
  place : List Nat
  deriving DecidableEq, Repr

structure Function where
  name : String
  definition : Definition
  qualifiedName : String
  binding : Binding := .toInstance
  formals : List Formal
  doc : Option String := none

/-- Functions that are bound to the class without being said to be. -/
def classFunctions : List String := ["__init_subclass__", "__class_getitem__"]

/-- What the function is bound to where nothing is said: as a rule an instance, but the function
that makes new instances is bound to nothing, and a few others to the class. -/
def Function.effectiveBinding (f : Function) : Binding :=
  if f.binding = .toInstance then
    if f.name = "__new__" then .toNothing
    else if classFunctions.contains f.name then .toClass
    else .toInstance
  else f.binding

/-- What a class says of itself. -/
structure ClassHead where
  name : String
  module : Path
  qualifiedName : String
  doc : Option String

mutual

inductive Class where
  | mk (head : ClassHead) (ancestors : List Class) (members : List (String × Attribute))

/-- What a name in a module, a class or a record stands for. -/
inductive Attribute where
  | function (f : Function)
  | classDef (c : Class)
  | object (c : Class)
  | record (members : List (String × Attribute))
  | value (v : Value)
  /-- A callable of another type, whose signature cannot be read. -/
  | unsigned (typeName : String) (doc : Option String) (e : Failure)
  /-- A name that cannot be looked up. -/
  | failing (e : Failure)

end

/-- The attribute of a name; a later definition takes the place of an earlier one. -/
def attribute? (members : List (String × Attribute)) (name : String) : Option Attribute :=
  members.reverse.lookup name

def Attribute.isFailing : Attribute → Bool
  | .failing _ => true
  | _ => false

/-- The attribute of a name in a module, where a name that cannot be looked up gives way to any
definition of it. -/
def moduleAttribute? (members : List (String × Attribute)) (name : String) : Option Attribute :=
  match attribute? (members.filter (!·.2.isFailing)) name with
  | some a => some a
  | none => attribute? members name

namespace Class

def head : Class → ClassHead
  | .mk h _ _ => h

def name (c : Class) : String :=
  c.head.name

def qualifiedName (c : Class) : String :=
  c.head.qualifiedName

def doc (c : Class) : Option String :=
  c.head.doc

def ancestors : Class → List Class
  | .mk _ as _ => as

def members : Class → List (String × Attribute)
  | .mk _ _ ms => ms

def lineage (c : Class) : List Class :=
  c :: c.ancestors

def define (head : ClassHead) (base : Option Class) (members : List (String × Attribute)) :
    Class :=
  .mk head
    (match base with
      | none => []
      | some b => b.lineage)
    members

def ownMember? (c : Class) (name : String) : Option Attribute :=
  attribute? c.members name

/-- The member of a name in the class or the nearest ancestor that has one. -/
def member? (c : Class) (name : String) : Option Attribute :=
  c.lineage.findSome? (·.ownMember? name)

/-- Instances of the class can be called, as far as the class tells: it has a member for calls,
whatever that is. -/
def makesCallables (c : Class) : Bool :=
  (c.member? "__call__").isSome

end Class

/-- What an access path can lead to. A method is a function with its first argument given, which
is an instance of `owner` or that class itself. -/
inductive Object where
  | module (path : Path)
  | function (f : Function)
  | method (f : Function) (owner : Class)
  | classDef (c : Class)
  | object (c : Class)
  | record (members : List (String × Attribute))
  | value (v : Value)
  | unsigned (typeName : String) (doc : Option String) (e : Failure)

namespace Object

def typeName : Object → String
  | .module _ => "module"
  | .function _ => "function"
  | .method _ _ => "method"
  | .classDef _ => "type"
  | .object c => c.name
  | .record _ => "SimpleNamespace"
  | .value v => v.typeName
  | .unsigned typeName _ _ => typeName

def name? : Object → Option String
  | .module path => some (dotted path)
  | .function f => some f.qualifiedName
  | .method f _ => some f.qualifiedName
  | .classDef c => some c.qualifiedName
  | _ => none

def isCallable : Object → Bool
  | .function _ => true
  | .method _ _ => true
  | .classDef _ => true
  | .object c => c.makesCallables
  | .unsigned _ _ _ => true
  | _ => false

/-- The object that an attribute stands for where nothing binds it. -/
def ofAttribute : Attribute → Except Failure Object
  | .function f => .ok (.function f)
  | .classDef c => .ok (.classDef c)
  | .object c => .ok (.object c)
  | .record members => .ok (.record members)
  | .value v => .ok (.value v)
  | .unsigned typeName doc e => .ok (.unsigned typeName doc e)
  | .failing e => .error e

/-- The object that a member stands for when looked up through its class. -/
def ofClassMember (owner : Class) : Attribute → Except Failure Object
  | .function f =>
    match f.effectiveBinding with
    | .toClass => .ok (.method f owner)
    | _ => .ok (.function f)
  | a => ofAttribute a

/-- The object that a member stands for when looked up through an instance. -/
def ofInstanceMember (owner : Class) : Attribute → Except Failure Object
  | .function f =>
    match f.effectiveBinding with
    | .toNothing => .ok (.function f)
    | _ => .ok (.method f owner)
  | a => ofAttribute a

end Object

end World
end RBinding

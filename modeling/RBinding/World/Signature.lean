import RBinding.World.Lookup
import RBinding.World.Shown

/-!
# RBinding.World.Signature

The signature of a callable, and the parameters it declares.

* A function has the parameters it was defined with. Where its receiver is given, as for a method,
  the first parameter is not part of the signature, unless it is variadic and so still takes
  further arguments.
* The signature of a class is that of the member that takes the arguments when an instance is made:
  the class's own `__new__`, else its own `__init__`, else the nearest inherited `__new__`, else the
  nearest inherited `__init__`. The signature of an instance is that of the member `__call__` of its
  class. In both the first parameter of the member is given.

  This is the order of `inspect.signature` in the early releases of Python 3.11. Later ones, such as
  3.11.10, go through the class and its ancestors one by one, to the first that has either of the
  two for its own.
* Such a member may itself be a class or an instance. One that cannot be called has no signature,
  and `None` stands for a missing one.

A function reached through its class still lists its receiver; it is left out (`withoutReceiver`).

In the declared parameters the variadic ones, by position and by keyword, are one, which stands
where the first of them stood. A default that R has no form for becomes `NULL`, and this is noted. A
number with too many digits in a default stops the declaration there (`declareAll`).
-/

namespace RBinding
namespace World

def badMethodSignature : Failure :=
  .exception ⟨.value, "invalid method signature"⟩

/-- The message shows the object, if it can be shown. -/
def notCallable (shown : Option String) : Failure :=
  match shown with
  | some text => .exception ⟨.type, s!"{text} is not a callable object"⟩
  | none => .tooManyDigits

/-- Nothing is known of how instances of the class are made. -/
def noCreator (head : ClassHead) : Failure :=
  .exception ⟨.value, s!"no signature found for builtin type {head.shown}"⟩

/-- The member for calls has no signature to be read. -/
def noCallSignature (head : ClassHead) : Failure :=
  .exception ⟨.value, s!"no signature found for {head.shownInstance}"⟩

/-- The member for calls is `None`. -/
def unsupportedCall (head : ClassHead) : Failure :=
  .exception ⟨.value, s!"callable {head.shownInstance} is not supported by signature"⟩

/-- The parameters that remain when the first argument is given. -/
def afterReceiver : List Formal → Except Failure (List Formal)
  | [] => .error badMethodSignature
  | p :: ps =>
    match p.kind with
    | .positionalOnly => .ok ps
    | .positional => .ok ps
    | .variadicPositional => .ok (p :: ps)
    | .keywordOnly => .error badMethodSignature
    | .variadicKeyword => .error badMethodSignature

def givenReceiver (signature : Except Failure (List Formal)) : Except Failure (List Formal) :=
  match signature with
  | .ok formals => afterReceiver formals
  | .error e => .error e

/-- The parameters of a member function as it is looked up through its class. -/
def memberFormals (f : Function) : Except Failure (List Formal) :=
  match f.effectiveBinding with
  | .toClass => afterReceiver f.formals
  | _ => .ok f.formals

/-- What a class offers under the name of a member that takes arguments. -/
inductive Special where
  | missing
  | null
  | signed (signature : Except Failure (List Formal))

def Special.orElse : Special → Special → Special
  | .missing, other => other
  | found, _ => found

/-- The signature of a class from its own members for making instances and the inherited ones. -/
def creation (head : ClassHead) (ownNew ownInit new init : Special) :
    Except Failure (List Formal) :=
  match ownNew, ownInit, new, init with
  | .signed signature, _, _, _ => givenReceiver signature
  | .null, _, _, _ => .error (noCreator head)
  | .missing, .signed signature, _, _ => givenReceiver signature
  | .missing, .null, _, _ => .error (noCreator head)
  | .missing, .missing, .signed signature, _ => givenReceiver signature
  | .missing, .missing, _, .signed signature => givenReceiver signature
  | .missing, .missing, .missing, .missing => .ok []
  | .missing, .missing, _, _ => .error (noCreator head)

def calling (head : ClassHead) (call : Special) : Except Failure (List Formal) :=
  match call with
  | .missing => .error (notCallable (some head.shownInstance))
  | .null => .error (unsupportedCall head)
  | .signed (.ok formals) => afterReceiver formals
  | .signed (.error e) => if e.isValueError then .error (noCallSignature head) else .error e

mutual

def classFormals : Class → Except Failure (List Formal)
  | .mk head ancestors members =>
    creation head (specialMember "__new__" members) (specialMember "__init__" members)
      (specialAlong "__new__" ancestors) (specialAlong "__init__" ancestors)

def instanceFormals : Class → Except Failure (List Formal)
  | .mk head ancestors members =>
    calling head ((specialMember "__call__" members).orElse (specialAlong "__call__" ancestors))

def special : Attribute → Special
  | .function f => .signed (memberFormals f)
  | .classDef c => .signed (classFormals c)
  | .object c => .signed (instanceFormals c)
  | .value .null => .null
  | .unsigned _ _ e => .signed (.error e)
  | .failing e => .signed (.error e)
  | .record members => .signed (.error (notCallable (Attribute.record members).shown?))
  | .value v => .signed (.error (notCallable v.shown?))

/-- The member of a name; the last one of the name counts. -/
def specialMember (name : String) : List (String × Attribute) → Special
  | [] => .missing
  | (n, a) :: more =>
    (specialMember name more).orElse (if n = name then special a else .missing)

/-- The member of a name in the first class of a line that has one. -/
def specialAlong (name : String) : List Class → Special
  | [] => .missing
  | .mk _ _ members :: more => (specialMember name members).orElse (specialAlong name more)

end

def signature (object : Object) : Except Failure (List Formal) :=
  match object with
  | .function f => .ok f.formals
  | .method f _ => afterReceiver f.formals
  | .classDef c => classFormals c
  | .object c => instanceFormals c
  | .unsigned _ _ e => .error e
  | _ => .ok []

def receiverNames : List String := ["self", "cls"]

/-- Leaves out the receiver that a function reached through its class still lists. -/
def withoutReceiver (object : Object) (formals : List Formal) : List Formal :=
  match object, formals with
  | .function f, p :: ps =>
    if receiverNames.contains p.name && f.qualifiedName.toList.contains '.' then ps else p :: ps
  | _, formals => formals

def Formal.isVariadic (p : Formal) : Bool :=
  p.kind.isVariadic

/-- Nothing can be declared for the default, as a number in it has too many digits. -/
def Formal.isUndeclarable (p : Formal) : Bool :=
  !p.isVariadic && p.default.any (·.isOverlong)

def defaultLiteral (v : Value) : String × Option Unwritable :=
  match v.literal? with
  | .ok text => (text, none)
  | .error e => ("NULL", some e)

def declare (p : Formal) : Parameter :=
  match p.default with
  | none => { name := p.name }
  | some v => { name := p.name, hasDefault := true, defaultLiteral := some (defaultLiteral v).1 }

def defaultNotes (target : String) (p : Formal) : List Note :=
  match p.default with
  | none => []
  | some v =>
    match (defaultLiteral v).2 with
    | none => []
    | some e => [.unwritableDefault target p.name e.message]

def declareVariadic (variadic : List Formal) : List Parameter :=
  if variadic.isEmpty then []
  else [{ name := variadicName, aliases := variadic.map (·.name) }]

def declared (formals : List Formal) : List Parameter :=
  (formals.takeWhile (!·.isVariadic)).map declare ++
    declareVariadic (formals.filter (·.isVariadic)) ++
    ((formals.dropWhile (!·.isVariadic)).filter (!·.isVariadic)).map declare

def declaredNotes (target : String) (formals : List Formal) : List Note :=
  (formals.filter (!·.isVariadic)).flatMap (defaultNotes target)

/-- Parameters are declared in order. What was noted on those before a failure stays noted. -/
def declareAll (target : String) (formals : List Formal) : Traced (List Parameter) := do
  Traced.notes (declaredNotes target (formals.takeWhile (!·.isUndeclarable)))
  if formals.any (·.isUndeclarable) then Traced.fail .tooManyDigits
  else pure (declared formals)

def onlyVariadic (formals : List Formal) : Bool :=
  !formals.isEmpty && formals.all (·.isVariadic)

end World
end RBinding

import RBinding.Assembly
import RBinding.Options.Issue

/-!
# RBinding.Failure

Everything that can stop a run. Targets that are not found and signatures that are not available
have causes of their own; an exception raised by described code or by a hook is passed on as it is
(`Failure.exception`), with the kind of exception it is.

`Failure.className` and `Failure.message` name a failure and give its text. `Failure.cause` is the
kind of exception behind a failure, where there is one. Requests to stop the interpreter are no
errors in the usual sense, and handlers for errors do not see them (`Failure.isError`).

A kind of exception that only has a name (`ExceptionKind.named`) is caught as an error in general.
Exceptions of a derived kind that is caught as one of the other kinds, such as those of subclasses
of `ValueError`, are given as that kind; beside the kinds only the names in `otherStops` and
`isValueError` make a difference.
-/

namespace RBinding

/-- The kinds of exception; the name of a missing module is known where it was stated. -/
inductive ExceptionKind where
  | moduleNotFound (missing : Option String)
  | importFailure
  | attribute
  | key
  | value
  | type
  | systemExit
  | interrupt
  | named (className : String)
  deriving DecidableEq, Repr

def ExceptionKind.className : ExceptionKind → String
  | .moduleNotFound _ => "ModuleNotFoundError"
  | .importFailure => "ImportError"
  | .attribute => "AttributeError"
  | .key => "KeyError"
  | .value => "ValueError"
  | .type => "TypeError"
  | .systemExit => "SystemExit"
  | .interrupt => "KeyboardInterrupt"
  | .named name => name

structure Exception where
  kind : ExceptionKind
  argument : String
  deriving DecidableEq, Repr

/-- The text of an exception; a missing key is shown in quotes. -/
def Exception.message (e : Exception) : String :=
  match e.kind with
  | .key => Text.quoted e.argument
  | _ => e.argument

inductive NotFound where
  | emptyPath (target : String)
  | importFailed (module : String) (className : String) (message : String)
  | noModule (target : String)
  | noAttribute (target : String) (path : String)
  | notCallable (target : String) (typeName : String)
  | unknown (target : String)
  | stated (message : String)
  deriving DecidableEq, Repr

def NotFound.message : NotFound → String
  | .emptyPath target => "Empty target reference: " ++ Text.quoted target
  | .importFailed module className message =>
    s!"Failed to import {module}: {className}: {message}"
  | .noModule target => "Cannot import any module from " ++ Text.quoted target
  | .noAttribute target path =>
    Text.quoted target ++ " has no attribute path " ++ Text.quoted path
  | .notCallable target typeName =>
    Text.quoted target ++ " resolved to a non-callable " ++ typeName
  | .unknown target => "Unknown target: " ++ target
  | .stated message => message

def NotFound.cause : NotFound → Option String
  | .importFailed _ className _ => some className
  | .noAttribute _ _ => some ExceptionKind.attribute.className
  | _ => none

inductive NoSignature where
  | unreadable (target : String) (className : String) (message : String)
  | onlyVariadic (target : String)
  | stated (message : String)
  deriving DecidableEq, Repr

def NoSignature.message : NoSignature → String
  | .unreadable target _ message =>
    "No signature available for " ++ Text.quoted target ++ ": " ++ message
  | .onlyVariadic target => Text.quoted target ++ " only accepts variadic arguments"
  | .stated message => message

def NoSignature.cause : NoSignature → Option String
  | .unreadable _ className _ => some className
  | _ => none

inductive Failure where
  | targetNotFound (reason : NotFound) (target : Option String)
  | signatureUnavailable (reason : NoSignature) (target : Option String) (doc : Option String)
  /-- An error of scaffolding in general, as a description of a target may report it. -/
  | scaffolding (message : String) (target : Option String)
  | exception (e : Exception)
  | hookNotCallable (typeName : String)
  | parameterHookResult (typeName : String) (parameter : String)
  | postprocessHookResult (typeName : String)
  | invalidOptions (issues : List Options.Issue)
  | notAssembled (e : Assembly.Fault)
  | badIndent (e : BadIndent)
  deriving DecidableEq, Repr

namespace Failure

def tooManyDigits : Failure :=
  .exception ⟨.value, Text.tooManyDigits ""⟩

def className : Failure → String
  | .targetNotFound _ _ => "TargetNotFound"
  | .signatureUnavailable _ _ _ => "SignatureUnavailable"
  | .scaffolding _ _ => "ScaffoldError"
  | .exception e => e.kind.className
  | .hookNotCallable _ => ExceptionKind.type.className
  | .parameterHookResult _ _ => ExceptionKind.type.className
  | .postprocessHookResult _ => ExceptionKind.type.className
  | .invalidOptions _ => "ValidationError"
  | .notAssembled (.misaligned _ _) => ExceptionKind.value.className
  | .notAssembled (.badWidth .notAnIndex) => "OverflowError"
  | .notAssembled (.badWidth .outOfMemory) => "MemoryError"
  | .badIndent _ => ExceptionKind.value.className

def message : Failure → String
  | .targetNotFound reason _ => reason.message
  | .signatureUnavailable reason _ _ => reason.message
  | .scaffolding message _ => message
  | .exception e => e.message
  | .hookNotCallable typeName => s!"'{typeName}' object is not callable"
  | .parameterHookResult typeName parameter =>
    s!"parameter hook returned {typeName} for '{parameter}', expected str"
  | .postprocessHookResult typeName => s!"postprocess hook returned {typeName}, expected str"
  | .invalidOptions issues => "; ".intercalate (issues.map (·.kind.message))
  | .notAssembled e => e.message
  | .badIndent e => e.message

def cause : Failure → Option String
  | .targetNotFound reason _ => reason.cause
  | .signatureUnavailable reason _ _ => reason.cause
  | _ => none

/-- Kinds of exception that handlers for errors do not see, beside the requests to stop. What is
derived from them is given as one of them. -/
def otherStops : List String := ["GeneratorExit", "BaseException"]

def isError : Failure → Bool
  | .exception ⟨.systemExit, _⟩ => false
  | .exception ⟨.interrupt, _⟩ => false
  | .exception ⟨.named name, _⟩ => !otherStops.contains name
  | _ => true

/-- Errors of encodings are errors of values too, and known by their name. -/
def isValueError : Failure → Bool
  | .exception ⟨.value, _⟩ => true
  | .exception ⟨.named name, _⟩ => name == "UnicodeError"
  | _ => false

def isTypeError : Failure → Bool
  | .exception ⟨.type, _⟩ => true
  | _ => false

def missingModule? : Failure → Option String
  | .exception ⟨.moduleNotFound missing, _⟩ => missing
  | _ => none

end Failure

end RBinding

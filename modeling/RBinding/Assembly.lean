import RBinding.AccessPath
import RBinding.DocBlock
import RBinding.Parameter
import RBinding.Settings
import RBinding.Text.Lines
import RBinding.Wrapper

/-!
# RBinding.Assembly

A wrapper from its parts.

* The documentation is a block of roxygen comment lines: title, description, a bare comment line,
  one tag for each declared parameter, what is returned, one tag for each further section, one
  note for each warning, the extra tags, and the export mark. A text of several lines continues
  on comment lines of its own, so no line of it stands outside the comment.
* The header declares the parameters, with their defaults, in order.
* The body calls the target. Each parameter is handed over by name, except that the variadic one is
  handed over as it is. Text to be run after the call follows line by line, indented.
-/

namespace RBinding

open Text

/-- A parameter with the expression that is handed over for it. -/
structure Rendered where
  name : String
  expression : String
  deriving DecidableEq, Repr, Inhabited

structure Assembly where
  target : String
  name : String
  parameters : List Parameter
  rendered : List Rendered
  doc : DocBlock := {}
  postprocess : Option String := none
  extraTags : Table String := .empty
  exported : Bool := true
  warnings : List String := []
  deriving DecidableEq, Repr, Inhabited

namespace Assembly

inductive Fault where
  /-- The numbers of parameters and of expressions differ. -/
  | misaligned (parameters rendered : Nat)
  | badWidth (e : BadWidth)
  deriving DecidableEq, Repr

def Fault.message : Fault → String
  | .misaligned parameters rendered =>
    s!"{parameters} parameters but {rendered} rendered expressions"
  | .badWidth e => e.message

def commentLine (text : String) : String :=
  trimmedEnd (Settings.docPrefix ++ " " ++ text)

/-- One tag; further lines of its text are comment lines of their own. -/
def tagLines (tag text : String) : List String :=
  match linesOf text with
  | [] => []
  | first :: rest => commentLine ("@" ++ tag ++ " " ++ first) :: rest.map commentLine

def parameterLines (doc : DocBlock) (p : Parameter) : List String :=
  tagLines ("param " ++ p.name) (doc.parameter p.name)

def sectionLines (e : String × String) : List String :=
  tagLines ("section " ++ e.1 ++ ":") e.2

def warningLines (warning : String) : List String :=
  tagLines "note" ("WARNING: " ++ warning)

def exportLines (exported : Bool) : List String :=
  if exported then [Settings.docPrefix ++ " @export"] else []

def docLines (a : Assembly) : List String :=
  tagLines "title" a.doc.title ++ tagLines "description" a.doc.description ++
    [Settings.docPrefix] ++
    a.parameters.flatMap (parameterLines a.doc) ++
    tagLines "return" a.doc.returns ++
    a.doc.sections.entries.flatMap sectionLines ++
    a.warnings.flatMap warningLines ++
    a.extraTags.entries.flatMap (fun e => tagLines e.1 e.2) ++
    exportLines a.exported

def formal (p : Parameter) : String :=
  if p.hasDefault then symbol p.name ++ " = " ++ p.defaultText else symbol p.name

def header (name : String) (parameters : List Parameter) : String :=
  symbol name ++ " <- function(" ++ ", ".intercalate (parameters.map formal) ++ ") \x7b"

/-- How a parameter is handed over. An expression that is the bare name is quoted like the name. -/
def argument (r : Rendered) : String :=
  if r.name = variadicName then r.expression
  else symbol r.name ++ " = " ++
    (if r.expression = r.name then symbol r.name else r.expression)

def withCommas : List String → List String
  | [] => []
  | [line] => [line]
  | line :: rest => (line ++ ",") :: withCommas rest

def opening (settings : Settings) (target : String) : String :=
  settings.spaces 1 ++ settings.resultName ++ " <- " ++ AccessPath.accessor target ++ "("

/-- The call of the target; without arguments it takes one line. -/
def call (settings : Settings) (target : String) (rendered : List Rendered) : List String :=
  if rendered.isEmpty then [opening settings target ++ ")"]
  else
    opening settings target ::
      withCommas (rendered.map fun r => settings.spaces 2 ++ argument r) ++
      [settings.spaces 1 ++ ")"]

/-- A line that runs after the call; blank lines become empty. -/
def postprocessLine (settings : Settings) (line : String) : String :=
  if blankText line then "" else settings.spaces 1 ++ line

def postprocessLines (settings : Settings) : Option String → List String
  | none => []
  | some text => (linesOf text).map (postprocessLine settings)

/-- What keeps a wrapper from being put together: there must be one expression for each parameter,
and an indentation that can be written. -/
def fault? (settings : Settings) (a : Assembly) : Option Fault :=
  if a.parameters.length ≠ a.rendered.length then
    some (.misaligned a.parameters.length a.rendered.length)
  else settings.badWidth?.map .badWidth

def toWrapper (settings : Settings) (a : Assembly) : Except Fault Wrapper :=
  match a.fault? settings with
  | some e => .error e
  | none =>
    .ok
      { name := a.name
        target := a.target
        docLines := a.docLines
        header := header a.name a.parameters
        body := call settings a.target a.rendered ++ postprocessLines settings a.postprocess
        warnings := a.warnings }

end Assembly

end RBinding

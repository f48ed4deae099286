import RBinding.DocBlock
import RBinding.Docstring.Arguments

/-!
# RBinding.Docstring.Reading

Docstrings as documentation blocks. Reading never fails: what is not recognised is part of the
description or of the section it stands in.

* The title is the first line of the preamble that is not blank, the description the rest, where
  several blank lines in a row count as one. Lines left over from sections on parameters are a
  last paragraph of the description.
* The texts of sections on results are joined by line feeds; of any other section the title counts
  once, and texts under a title that comes again are joined by line feeds.
* Parameters come in their declared order, and documented names that are no declared parameter
  after them. A name stands for the parameter of that name, or else for the one it is an alias of.
-/

namespace RBinding
namespace Docstring

open Text

structure Reading where
  block : DocBlock := {}
  repeated : List String := []
  deriving DecidableEq, Repr

/-- The names that documentation may use, each with its parameter; nothing if none is known. -/
def knownNames (names : List String) (aliases : Table String) : Option (Table String) :=
  if names.isEmpty && aliases.isEmpty then none
  else
    some (aliases.entries.foldl (fun t e => t.insertNew e.1 e.2)
      (Table.ofList (names.map fun n => (n, n))))

def readPreamble : List Line → String × String
  | [] => ("", "")
  | line :: rest =>
    if isAllBlank line then readPreamble rest
    else (String.ofList (trim line), String.ofList (unlines (squeeze (lines (dedent rest)))))

def readArguments (known : Option (Table String)) (sections : List Section) : Arguments :=
  (sections.filter (·.header.kind == .parameters)).foldl (Arguments.readSection known) {}

def readReturns (sections : List Section) : String :=
  "\n".intercalate
    (((sections.filter (·.header.kind == .returns)).map Section.text).filter (!·.isEmpty))

def mergeText (before after : String) : String :=
  String.ofList (trim (before ++ "\n" ++ after).toList)

def addSection (t : Table String) (s : Section) : Table String :=
  match t.get? s.header.title with
  | none => t.insert s.header.title s.text
  | some before => t.insert s.header.title (mergeText before s.text)

/-- All other sections by title, in the order in which the titles came first. -/
def readSections (sections : List Section) : Table String :=
  (sections.filter (·.header.kind == .other)).foldl addSection .empty

def withLeftover (description : String) (leftover : List String) : String :=
  if leftover.isEmpty then description
  else
    let extra := " ".intercalate leftover
    if description.isEmpty then extra else description ++ "\n\n" ++ extra

def inDeclaredOrder (names : List String) (docs : Table String) : Table String :=
  if names.isEmpty then docs
  else
    Table.ofList
      (names.filterMap (fun n => (docs.get? n).map fun text => (n, text)) ++ docs.entries)

/-- Reads the lines of a docstring whose margin is gone. -/
def readLines (names : List String) (aliases : Table String) (ls : List Line) : Reading :=
  let (preamble, sections) := Section.split false ls
  let (title, description) := readPreamble preamble
  let arguments := readArguments (knownNames names aliases) sections
  { block :=
      { title := title
        description := withLeftover description arguments.leftover
        parameters := inDeclaredOrder names arguments.docs
        returns := readReturns sections
        sections := readSections sections }
    repeated := arguments.repeated }

def read (raw : Option String) (names : List String) (aliases : Table String) : Reading :=
  match raw with
  | none => {}
  | some text => if blankText text then {} else readLines names aliases (clean text.toList)

end Docstring
end RBinding

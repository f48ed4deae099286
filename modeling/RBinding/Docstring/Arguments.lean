import RBinding.Docstring.Entry
import RBinding.Docstring.Section

/-!
# RBinding.Docstring.Arguments

Sections on parameters. Blank lines do not count. A line at the least indentation of the section
that is an entry opens the documentation of a parameter; every other line continues the entry
before it, and lines before the first entry are left over.

The first entry under a name is the one that counts: a later one under the same name is skipped
together with the lines that continue it, and reported. Different names of one parameter add up.
In an underlined section the entry line holds the type of the parameter, so only the lines that
continue it are documentation.
-/

namespace RBinding
namespace Docstring

open Text

/-- What the sections on parameters have given so far. -/
structure Arguments where
  /-- Documentation by parameter, in the order in which parameters were first documented. -/
  docs : Table String := .empty
  seen : List String := []
  /-- Lines before the first entry of a section, trimmed. -/
  leftover : List String := []
  /-- The names of entries that were skipped, one for each such entry. -/
  repeated : List String := []
  deriving DecidableEq, Repr

/-- Where the lines that continue an entry go. -/
inductive Current where
  | nowhere
  | skipped
  | parameter (name : String)
  deriving DecidableEq, Repr

namespace Arguments

/-- Adds a fragment to a text, after a space unless the text is empty. -/
def join (text fragment : String) : String :=
  if text.isEmpty then fragment else text ++ " " ++ fragment

def document (a : Arguments) (parameter fragment : String) : Arguments :=
  { a with docs := a.docs.insert parameter (join ((a.docs.get? parameter).getD "") fragment) }

def continueEntry (a : Arguments) (fragment : String) : Current → Arguments
  | .nowhere => { a with leftover := a.leftover ++ [fragment] }
  | .skipped => a
  | .parameter name => a.document name fragment

def openEntry (a : Arguments) (underlined : Bool) (e : Entry) : Arguments × Current :=
  if a.seen.contains e.token then
    ({ a with repeated := a.repeated ++ [e.token] }, .skipped)
  else
    let text := if underlined then "" else e.text
    ({ a with seen := a.seen ++ [e.token] }.document e.parameter text, .parameter e.parameter)

/-- The entry at a line, if it stands at the indentation of entries. -/
def entryAt? (known : Option (Table String)) (indent : Nat) (line : Line) : Option Entry :=
  if indentOf line = indent then Entry.ofLine? known (trim line) else none

def readLine (known : Option (Table String)) (underlined : Bool) (indent : Nat)
    (state : Arguments × Current) (line : Line) : Arguments × Current :=
  match entryAt? known indent line with
  | none => (state.1.continueEntry (String.ofList (trim line)) state.2, state.2)
  | some e => state.1.openEntry underlined e

def readSection (known : Option (Table String)) (a : Arguments) (s : Section) : Arguments :=
  let body := s.lines.filter (!isAllBlank ·)
  (body.foldl (readLine known s.header.underlined (leastIndent body)) (a, .nowhere)).1

end Arguments

end Docstring
end RBinding

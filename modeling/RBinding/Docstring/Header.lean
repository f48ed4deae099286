import RBinding.Text.Lines

/-!
# RBinding.Docstring.Header

Section headers of docstrings. A header is a line that starts at the margin and has one of two
forms:

* underlined: the line is the title of a section, in any letter case, and the next line consists
  of three or more dashes. Such a header takes two lines.
* with a colon: what stands before the first colon is the title of a section, in any letter case,
  and nothing follows the colon. A section on results may begin on the header line itself, with
  the text after the colon.

The underlined form is tried first. Inside an underlined section it is the only one, so that an
entry such as `params : array_like` stays an entry.
-/

namespace RBinding
namespace Docstring

open Text

inductive SectionKind where
  | parameters
  | returns
  | other
  deriving DecidableEq, Repr

structure Header where
  title : String
  kind : SectionKind
  underlined : Bool
  /-- Text that stands on the header line after the colon. -/
  inlineText : Line
  deriving DecidableEq, Repr

namespace Header

/-- The titles of sections, in the letter case in which they are reported. -/
def titles : List (String × SectionKind) :=
  [("Args", .parameters), ("Arguments", .parameters), ("Parameters", .parameters),
    ("Params", .parameters), ("Keyword Args", .parameters), ("Keyword Arguments", .parameters),
    ("Other Parameters", .parameters),
    ("Returns", .returns), ("Return", .returns), ("Yields", .returns),
    ("Raises", .other), ("Example", .other), ("Examples", .other), ("Note", .other),
    ("Notes", .other), ("Warning", .other), ("Warnings", .other), ("See Also", .other),
    ("References", .other), ("Attributes", .other), ("Todo", .other)]

/-- The lower case of a character where it can matter for a title: the Kelvin sign is the one
character outside ASCII whose lower case is an ASCII letter. -/
def lowerCase (c : Char) : Char :=
  if c = '\u212a' then 'k' else c.toLower

def find? (lowered : List Char) : Option (String × SectionKind) :=
  titles.find? fun t => t.1.toList.map Char.toLower == lowered

def isUnderline (line : Line) : Bool :=
  let dashes := trim line
  3 ≤ dashes.length && dashes.all (· == '-')

def underlined? (line : Line) (next : Option Line) : Option Header :=
  match next with
  | none => none
  | some below =>
    if isUnderline below then
      match find? ((trim line).map lowerCase) with
      | none => none
      | some (title, kind) => some ⟨title, kind, true, []⟩
    else none

def withColon? (line : Line) : Option Header :=
  match (trim line).dropWhile (· != ':') with
  | [] => none
  | _ :: after =>
    match find? ((trimEnd ((trim line).takeWhile (· != ':'))).map Char.toLower) with
    | none => none
    | some (title, kind) =>
      let text := trim after
      if text.isEmpty || kind == .returns then some ⟨title, kind, false, text⟩ else none

def at? (onlyUnderlined : Bool) (line : Line) (next : Option Line) : Option Header :=
  if isAllBlank line || 0 < indentOf line then none
  else
    match underlined? line next with
    | some h => some h
    | none => if onlyUnderlined then none else withColon? line

end Header

end Docstring
end RBinding

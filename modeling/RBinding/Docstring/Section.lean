import RBinding.Docstring.Header
import RBinding.Text.Margin

/-!
# RBinding.Docstring.Section

The lines of a docstring, split into the preamble and the sections after it. Every line belongs to
the preamble, to a header, or to the section whose header came last. Text on a header line is the
first line of its section.
-/

namespace RBinding
namespace Docstring

open Text

/-- A header with the lines below it, up to the next header. -/
structure Section where
  header : Header
  body : List Line
  deriving DecidableEq, Repr

namespace Section

/-- The lines before the first header, and the sections from there on. -/
def split (onlyUnderlined : Bool) : List Line → List Line × List Section
  | [] => ([], [])
  | line :: rest =>
    match Header.at? onlyUnderlined line rest.head? with
    | none =>
      let (body, sections) := split onlyUnderlined rest
      (line :: body, sections)
    | some h =>
      if h.underlined then
        match rest with
        | [] => ([], [⟨h, []⟩])
        | _ :: rest =>
          let (body, sections) := split true rest
          ([], ⟨h, body⟩ :: sections)
      else
        let (body, sections) := split false rest
        ([], ⟨h, body⟩ :: sections)

/-- The lines of a section, with the text on its header line first. -/
def lines (s : Section) : List Line :=
  if s.header.inlineText.isEmpty then s.body else s.header.inlineText :: s.body

def text (s : Section) : String :=
  String.ofList (dedent s.lines)

end Section

end Docstring
end RBinding

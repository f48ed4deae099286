import Mathlib.Tactic.MkIffOfInductiveProp
import RBinding.DocBlock
import RBinding.Proofs.Docstring.Splitting

/-!
# RBinding.Proofs.Docstring.Printing

Documentation blocks written as docstrings, in two styles.

* `Style.colons`: a header is a title with a colon, and what belongs to it is indented by four
  spaces, where empty lines may be left empty. An entry of a parameter is its name, a colon and the
  first fragment of its text; further fragments stand on lines of their own, indented by four
  spaces more.
* `Style.underlines`: a header is a title over dashes, and what belongs to it is not indented. An
  entry is the name of the parameter, possibly with a colon and a type after it; every fragment
  stands on a line of its own, indented by four spaces.

Both write title and description first, then parameters, result and further sections, each after
an empty line. `Printable` says which blocks can be written so that nothing in them is taken for
something else.
-/

namespace RBinding
namespace Docstring

open Text

/-- A section to be written: its lines are not yet indented. -/
structure Part where
  title : String
  kind : SectionKind
  body : List Line

/-- A way to write the sections of a docstring. -/
structure Style where
  parametersTitle : String
  underlined : Bool
  margin : Nat
  bare : Bool
  header : String → List Line
  /-- The lines on one parameter, given its name and the fragments of its text. -/
  entry : String → List String → List Line

def returnsTitle : String := "Returns"

namespace Style

def colons (bare : Bool) : Style where
  parametersTitle := "Args"
  underlined := false
  margin := 4
  bare := bare
  header title := [title.toList ++ [':']]
  entry name fragments :=
    (name.toList ++ ':' :: ' ' :: (fragments.headD "").toList) ::
      fragments.tail.map fun f => indented 4 f.toList

def typedName (name : String) : Option String → Line
  | none => name.toList
  | some type => name.toList ++ ' ' :: ':' :: ' ' :: type.toList

/-- The number of dashes below a title is three or more. -/
def underlines (dashes : String → Nat) (types : String → Option String) : Style where
  parametersTitle := "Parameters"
  underlined := true
  margin := 0
  bare := false
  header title := [title.toList, List.replicate (dashes title + 3) '-']
  entry name fragments :=
    typedName name (types name) :: fragments.map fun f => indented 4 f.toList

/-- The section on parameters, where something is said on one; `cut` gives the fragments of the text
of each. -/
def parameterParts (s : Style) (doc : DocBlock) (cut : String → List String) : List Part :=
  if doc.parameters.isEmpty then []
  else
    [⟨s.parametersTitle, .parameters, doc.parameters.keys.flatMap fun n => s.entry n (cut n)⟩]

def returnsParts (doc : DocBlock) : List Part :=
  if doc.returns.isEmpty then [] else [⟨returnsTitle, .returns, lines doc.returns.toList⟩]

def otherParts (doc : DocBlock) : List Part :=
  doc.sections.entries.map fun e => ⟨e.1, .other, lines e.2.toList⟩

def parts (s : Style) (doc : DocBlock) (cut : String → List String) : List Part :=
  s.parameterParts doc cut ++ returnsParts doc ++ otherParts doc

def body (s : Style) (p : Part) : List Line :=
  p.body.map (shifted s.bare s.margin)

def partLines (s : Style) (p : Part) : List Line :=
  [] :: s.header p.title ++ s.body p

def preamble (doc : DocBlock) : List Line :=
  doc.title.toList :: if doc.description.isEmpty then [] else [] :: lines doc.description.toList

def printLines (s : Style) (doc : DocBlock) (cut : String → List String) : List Line :=
  preamble doc ++ (s.parts doc cut).flatMap s.partLines

def print (s : Style) (doc : DocBlock) (cut : String → List String) : String :=
  String.ofList (unlines (s.printLines doc cut))

end Style

/-- An ASCII letter or underscore, followed by ASCII letters, digits and underscores. -/
def isIdentifier (name : String) : Bool :=
  match name.toList with
  | [] => false
  | c :: cs => (c.isAlpha || c == '_') && cs.all fun x => x.isAlphanum || x == '_'

/-- A piece of the text of a parameter that can stand on one line. -/
@[mk_iff]
structure IsFragment (f : String) : Prop where
  ne_empty : f ≠ ""
  trimmed : trim f.toList = f.toList
  oneLine : '\n' ∉ f.toList
  tabFree : '\t' ∉ f.toList

instance (f : String) : Decidable (IsFragment f) :=
  decidable_of_iff' _ (isFragment_iff f)

/-- The block can be written, with the texts of its parameters cut into fragments. -/
@[mk_iff]
structure Printable (doc : DocBlock) (cut : String → List String) : Prop where
  title_ne_empty : doc.title ≠ ""
  title_trimmed : trim doc.title.toList = doc.title.toList
  title_oneLine : '\n' ∉ doc.title.toList
  title_tabFree : '\t' ∉ doc.title.toList
  description_trimmed : trim doc.description.toList = doc.description.toList
  description_spaced : SingleSpaced (lines doc.description.toList)
  description_tabFree : '\t' ∉ doc.description.toList
  no_header : HeaderFree false (Style.preamble doc)
  name_identifier : ∀ name ∈ doc.parameters.keys, isIdentifier name = true
  text_joined : ∀ e ∈ doc.parameters.entries, " ".intercalate (cut e.1) = e.2
  text_fragments : ∀ name ∈ doc.parameters.keys, ∀ f ∈ cut name, IsFragment f
  returns_trimmed : trim doc.returns.toList = doc.returns.toList
  returns_tabFree : '\t' ∉ doc.returns.toList
  section_title : ∀ title ∈ doc.sections.keys, (title, .other) ∈ Header.titles
  section_trimmed : ∀ e ∈ doc.sections.entries, trim e.2.toList = e.2.toList
  section_tabFree : ∀ e ∈ doc.sections.entries, '\t' ∉ e.2.toList

instance (doc : DocBlock) (cut : String → List String) : Decidable (Printable doc cut) :=
  decidable_of_iff' _ (printable_iff doc cut)

end Docstring
end RBinding

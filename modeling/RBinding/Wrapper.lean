/-!
# RBinding.Wrapper

The R source of one wrapper in parts: documentation lines, header, body and footer. `lines` puts
them in order and `source` is the text of the file. A wrapper may be edited part by part before it
is printed; its warnings are kept beside it and are not printed again.
-/

namespace RBinding

structure Wrapper where
  name : String
  target : String
  docLines : List String := []
  header : String := ""
  body : List String := []
  footer : String := "\x7d"
  warnings : List String := []
  deriving DecidableEq, Repr, Inhabited

namespace Wrapper

def lines (w : Wrapper) : List String :=
  w.docLines ++ w.header :: w.body ++ [w.footer]

def source (w : Wrapper) : String :=
  "\n".intercalate w.lines ++ "\n"

inductive TextPart where
  | name
  | target
  | header
  | footer
  deriving DecidableEq, Repr

inductive LinesPart where
  | docLines
  | body
  | warnings
  deriving DecidableEq, Repr

inductive Edit where
  | set (part : TextPart) (text : String)
  | setLines (part : LinesPart) (lines : List String)
  | append (part : LinesPart) (line : String)
  | pop (part : LinesPart)
  deriving DecidableEq, Repr

def setText (w : Wrapper) (part : TextPart) (text : String) : Wrapper :=
  match part with
  | .name => { w with name := text }
  | .target => { w with target := text }
  | .header => { w with header := text }
  | .footer => { w with footer := text }

def changeLines (w : Wrapper) (part : LinesPart) (f : List String → List String) : Wrapper :=
  match part with
  | .docLines => { w with docLines := f w.docLines }
  | .body => { w with body := f w.body }
  | .warnings => { w with warnings := f w.warnings }

/-- Removing the last line of a part without lines changes nothing. -/
def edit (w : Wrapper) : Edit → Wrapper
  | .set part text => w.setText part text
  | .setLines part lines => w.changeLines part fun _ => lines
  | .append part line => w.changeLines part (· ++ [line])
  | .pop part => w.changeLines part List.dropLast

end Wrapper

end RBinding

import RBinding.Table
import RBinding.Text.Lines

/-!
# RBinding.Docstring.Entry

The line that opens the documentation of a parameter. It starts with at most two stars and the
name of the parameter, the longest run of ASCII letters, digits and underscores that does not
start with a digit. An annotation in parentheses may follow. The text comes after

* a colon, with any blank characters around it,
* one or two dashes between blank characters,
* blank characters alone,

or is absent if the line ends there. Where the parameters are known by name, the name must be one
of theirs; where none is known, only the form with a colon counts.
-/

namespace RBinding
namespace Docstring

open Text

inductive Separator where
  | colon
  | dash
  | space
  | lineEnd
  deriving DecidableEq, Repr

structure EntryForm where
  token : List Char
  separator : Separator
  text : List Char
  deriving DecidableEq, Repr

namespace EntryForm

def isTokenStart (c : Char) : Bool :=
  c.isAlpha || c == '_'

def isTokenChar (c : Char) : Bool :=
  c.isAlphanum || c == '_'

def dropStars : List Char → List Char
  | '*' :: '*' :: cs => cs
  | '*' :: cs => cs
  | cs => cs

/-- What follows an annotation in parentheses, if the text starts with one. -/
def afterAnnotation? : List Char → Option (List Char)
  | '(' :: cs => if cs.contains ')' then some ((cs.dropWhile (· != ')')).drop 1) else none
  | _ => none

/-- What follows one or two dashes and a blank character. -/
def afterDashes? : List Char → Option (List Char)
  | '-' :: '-' :: c :: cs => if isBlank c then some cs else none
  | '-' :: c :: cs => if isBlank c then some cs else none
  | _ => none

def startsBlank : List Char → Bool
  | [] => false
  | c :: _ => isBlank c

/-- The text after blank characters that no colon follows. -/
def afterGap (cs : List Char) : Separator × List Char :=
  match afterDashes? cs with
  | some text => (.dash, text)
  | none => (.space, cs)

/-- The text after blank characters, if there are any; else the line is no entry. -/
def afterGap? (before after : List Char) : Option (Separator × List Char) :=
  if startsBlank before then some (afterGap after) else none

def afterToken? (cs : List Char) : Option (Separator × List Char) :=
  let rest := trimStart cs
  match afterAnnotation? rest with
  | some beyond =>
    match trimStart beyond with
    | ':' :: text => some (.colon, text)
    | [] => some (.lineEnd, [])
    | text => if startsBlank beyond then some (afterGap text) else
      if startsBlank cs then some (.space, rest) else none
  | none =>
    match rest with
    | ':' :: text => some (.colon, text)
    | [] => some (.lineEnd, [])
    | text => afterGap? cs text

def ofLine? (line : Line) : Option EntryForm :=
  match dropStars line with
  | [] => none
  | c :: cs =>
    if isTokenStart c then
      let token := c :: cs.takeWhile isTokenChar
      match afterToken? (cs.dropWhile isTokenChar) with
      | none => none
      | some (separator, text) => some ⟨token, separator, trim text⟩
    else none

end EntryForm

/-- The documentation of a parameter as one entry line gives it: the name as written, the parameter
it stands for, and the text. -/
structure Entry where
  token : String
  parameter : String
  text : String
  deriving DecidableEq, Repr

namespace Entry

/-- Reads an entry, with a table from the names that documentation may use to the parameters they
stand for, if any is known. -/
def ofLine? (known : Option (Table String)) (line : Line) : Option Entry :=
  match EntryForm.ofLine? line with
  | none => none
  | some form =>
    let token := String.ofList form.token
    match known with
    | none =>
      if form.separator = .colon then some ⟨token, token, String.ofList form.text⟩ else none
    | some table =>
      match table.get? token with
      | none => none
      | some parameter => some ⟨token, parameter, String.ofList form.text⟩

end Entry

end Docstring
end RBinding

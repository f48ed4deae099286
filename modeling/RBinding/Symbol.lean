/-!
# RBinding.Symbol

Names in R source. A syntactic name consists of ASCII letters, digits, dots and underscores, starts
with a letter or with a dot that no digit follows, and is not a reserved word. The test is made on
the name without one final line feed, while the reserved words are compared as they stand.

`symbol` puts every other name between backticks; the variadic `...` is never quoted.
-/

namespace RBinding

/-- The formal that takes any number of arguments. -/
def variadicName : String := "..."

namespace Symbol

def reservedWords : List String :=
  ["if", "else", "repeat", "while", "function", "for", "next", "break", "in", "TRUE", "FALSE",
    "NULL", "Inf", "NaN", "NA", "NA_integer_", "NA_real_", "NA_character_", "NA_complex_"]

def isNameChar (c : Char) : Bool :=
  c.isAlphanum || c == '.' || c == '_'

def startsWithDigit : List Char → Bool
  | [] => false
  | c :: _ => c.isDigit

/-- The shape of a syntactic name, reserved words included. -/
def hasNameShape : List Char → Bool
  | [] => false
  | c :: cs =>
    (c.isAlpha || (c == '.' && !startsWithDigit cs)) && cs.all isNameChar

def withoutFinalNewline (cs : List Char) : List Char :=
  match cs.reverse with
  | '\n' :: rest => rest.reverse
  | _ => cs

def isSyntactic (name : String) : Bool :=
  hasNameShape (withoutFinalNewline name.toList) && !reservedWords.contains name

end Symbol

def symbol (name : String) : String :=
  if name = variadicName || Symbol.isSyntactic name then name else "`" ++ name ++ "`"

theorem symbol_of_isSyntactic {name : String} (h : Symbol.isSyntactic name = true) :
    symbol name = name := by
  simp [symbol, h]

end RBinding

import RBinding.Value

/-!
# RBinding.Literal

R source text for Python values. `None` becomes `NULL`, truth values are written in capitals, and
lists, tuples and dictionaries become calls of `list`, where the keys of a dictionary are quoted
names. A whole number has the suffix `L` if it fits R's integer type; a larger one is left to be
read as a double. Strings are in double quotes with every character outside the printable ASCII
range escaped, those beyond U+FFFF as a pair of surrogates.

`Value.literal?` fails on the first part of a value, from left to right, that is not written
(`Unwritable`): a value of another type or a dictionary key that is not a string, which R has no
form for, or a number that has too many digits. Values may be nested to any depth.
-/

namespace RBinding

inductive Unwritable where
  | type (name : String)
  | key (shown : String)
  | tooLong
  deriving DecidableEq, Repr

namespace Unwritable

def message : Unwritable → String
  | .type name => s!"no R literal for {name}"
  | .key shown => s!"dict key {shown} is not a string"
  | .tooLong => Text.tooManyDigits ""

/-- R has no form for it. That there is one for a number too long to be written is another matter.
-/
def isUnsupported : Unwritable → Bool
  | .tooLong => false
  | _ => true

/-- What is wrong with a key that is no string. It is shown, so it may be too long itself. -/
def ofKey (key : Value) : Unwritable :=
  match key.shown? with
  | some shown => .key shown
  | none => .tooLong

end Unwritable

namespace Literal

def maxInteger : Nat := 2147483647

/-- Four hexadecimal digits after `\u`. -/
def unitEscape (n : Nat) : List Char :=
  '\\' :: 'u' :: Text.hexDigits 4 n

/-- How one character is written inside a string literal. -/
def escapedChar (c : Char) : List Char :=
  if c = '"' || c = '\\' then ['\\', c]
  else if c = '\n' then ['\\', 'n']
  else if c = '\r' then ['\\', 'r']
  else if c = '\t' then ['\\', 't']
  else if c = '\x08' then ['\\', 'b']
  else if c = '\x0c' then ['\\', 'f']
  else if 32 ≤ c.toNat && c.toNat ≤ 126 then [c]
  else if c.toNat < 0x10000 then unitEscape c.toNat
  else
    let n := c.toNat - 0x10000
    unitEscape (0xd800 + n / 0x400) ++ unitEscape (0xdc00 + n % 0x400)

def string (s : String) : List Char :=
  '"' :: s.toList.flatMap escapedChar ++ ['"']

def integer? (n : Int) : Except Unwritable (List Char) :=
  match Value.integerText? n with
  | none => .error .tooLong
  | some text => .ok (if n.natAbs ≤ maxInteger then text ++ ['L'] else text)

def real : Double → List Char
  | .nan => "NaN".toList
  | .infinite false => "Inf".toList
  | .infinite true => "-Inf".toList
  | x => x.text.toList

def listCall (args : List (List Char)) : List Char :=
  "list(".toList ++ [',', ' '].intercalate args ++ [')']

mutual

def chars? : Value → Except Unwritable (List Char)
  | .null => .ok "NULL".toList
  | .boolean true => .ok "TRUE".toList
  | .boolean false => .ok "FALSE".toList
  | .integer n => integer? n
  | .real x => .ok (real x)
  | .text s => .ok (string s)
  | .list vs =>
    match args? vs with
    | .error e => .error e
    | .ok args => .ok (listCall args)
  | .tuple vs =>
    match args? vs with
    | .error e => .error e
    | .ok args => .ok (listCall args)
  | .dict es =>
    match namedArgs? es with
    | .error e => .error e
    | .ok args => .ok (listCall args)
  | .other name => .error (.type name)

def args? : List Value → Except Unwritable (List (List Char))
  | [] => .ok []
  | v :: vs =>
    match chars? v with
    | .error e => .error e
    | .ok arg =>
      match args? vs with
      | .error e => .error e
      | .ok args => .ok (arg :: args)

def namedArgs? : List (Value × Value) → Except Unwritable (List (List Char))
  | [] => .ok []
  | (.text name, v) :: es =>
    match chars? v with
    | .error e => .error e
    | .ok arg =>
      match namedArgs? es with
      | .error e => .error e
      | .ok args => .ok ((string name ++ " = ".toList ++ arg) :: args)
  | (key, _) :: _ => .error (.ofKey key)

end

end Literal

def Value.literal? (v : Value) : Except Unwritable String :=
  match Literal.chars? v with
  | .error e => .error e
  | .ok cs => .ok (String.ofList cs)

/-- Writing the literal stops at a number with too many digits. -/
def Value.isOverlong (v : Value) : Bool :=
  match v.literal? with
  | .error .tooLong => true
  | _ => false

end RBinding

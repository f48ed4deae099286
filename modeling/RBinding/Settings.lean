import RBinding.Text.Integer
import RBinding.Text.Quoted

/-!
# RBinding.Settings

How wrappers are laid out: the name that receives the result of the call, and the width of one
step of indentation. Both may be set by the environment; a width is a whole number, and a negative
one stands for no indentation. How wide a line can be at all depends on the memory of the machine,
which is a setting too, though none that the environment has a say in.
-/

namespace RBinding

structure Settings where
  resultName : String := "python_function_result"
  indent : Int := 2
  /-- The most characters of a line that memory can hold. The default is that of no machine in
  particular. -/
  maxWidth : Nat := Nat.pow 2 40
  deriving DecidableEq, Repr, Inhabited

structure Environment where
  resultName : Option String := none
  indent : Option String := none
  deriving DecidableEq, Repr, Inhabited

inductive BadIndent where
  | notWhole (text : String)
  | tooLong (digits : Nat)
  deriving DecidableEq, Repr

namespace BadIndent

/-- The most characters of a text that are shown, quotes and escapes included. -/
def shownLength : Nat := 200

def message : BadIndent → String
  | .notWhole text =>
    "invalid literal for int() with base 10: " ++
      String.ofList ((Text.quoted text).toList.take shownLength)
  | .tooLong digits => Text.tooManyDigits s!": value has {digits} digits"

end BadIndent

inductive BadWidth where
  | notAnIndex
  | outOfMemory
  deriving DecidableEq, Repr

def BadWidth.message : BadWidth → String
  | .notAnIndex => "cannot fit 'int' into an index-sized integer"
  | .outOfMemory => ""

namespace Settings

def docPrefix : String := "#'"

/-- Reads a width. That it has too many digits counts before anything that follows them. -/
def readIndent (text : String) : Except BadIndent Int :=
  match Text.leadingDigits? text.toList with
  | none => .error (.notWhole text)
  | some digits =>
    if Text.maxDigits < digits then .error (.tooLong digits)
    else
      match Text.integer? text.toList with
      | none => .error (.notWhole text)
      | some n => .ok n

def ofEnvironment (env : Environment) : Except BadIndent Settings :=
  let resultName := env.resultName.getD ({} : Settings).resultName
  match env.indent with
  | none => .ok { resultName := resultName }
  | some text =>
    match readIndent text with
    | .error e => .error e
    | .ok n => .ok { resultName := resultName, indent := n }

/-- Indentation of this width cannot be written: its width is no signed word of 64 bits, or it is
too wide to be held. -/
def badWidth? (s : Settings) : Option BadWidth :=
  if s.indent < -(Nat.pow 2 63 : Nat) || (Nat.pow 2 63 : Nat) ≤ s.indent then some .notAnIndex
  else if s.maxWidth < s.indent then some .outOfMemory
  else none

def spaces (s : Settings) (steps : Nat) : String :=
  String.ofList (List.replicate (s.indent.toNat * steps) ' ')

end Settings

end RBinding

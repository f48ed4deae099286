import RBinding.Text.Blank

/-!
# RBinding.Text.Integer

Reading whole numbers. A number may stand between blank characters, may have a sign, and is a
sequence of decimal digits of any script in which single underscores separate digits. The record
separators U+001C to U+001F are blank elsewhere but do not surround a number.

Numbers with more than `maxDigits` digits are neither read nor written.
-/

namespace RBinding
namespace Text

/-- The zero of each set of decimal digits in Unicode 14.0; the nine other digits follow it. -/
def decimalZeros : List Nat := [
  0x30, 0x660, 0x6f0, 0x7c0, 0x966, 0x9e6, 0xa66, 0xae6, 0xb66, 0xbe6, 0xc66, 0xce6, 0xd66, 0xde6,
  0xe50, 0xed0, 0xf20, 0x1040, 0x1090, 0x17e0, 0x1810, 0x1946, 0x19d0, 0x1a80, 0x1a90, 0x1b50,
  0x1bb0, 0x1c40, 0x1c50, 0xa620, 0xa8d0, 0xa900, 0xa9d0, 0xa9f0, 0xaa50, 0xabf0, 0xff10, 0x104a0,
  0x10d30, 0x11066, 0x110f0, 0x11136, 0x111d0, 0x112f0, 0x11450, 0x114d0, 0x11650, 0x116c0,
  0x11730, 0x118e0, 0x11950, 0x11c50, 0x11d50, 0x11da0, 0x16a60, 0x16ac0, 0x16b50, 0x1d7ce,
  0x1d7d8, 0x1d7e2, 0x1d7ec, 0x1d7f6, 0x1e140, 0x1e2f0, 0x1e950, 0x1fbf0]

def digitValue? (c : Char) : Option Nat :=
  match decimalZeros.find? (fun z => z ≤ c.toNat && c.toNat < z + 10) with
  | some z => some (c.toNat - z)
  | none => none

/-- Continues a number that has been read up to a digit. -/
def naturalAfter? (value : Nat) : List Char → Option Nat
  | [] => some value
  | '_' :: c :: cs =>
    match digitValue? c with
    | some d => naturalAfter? (10 * value + d) cs
    | none => none
  | c :: cs =>
    match digitValue? c with
    | some d => naturalAfter? (10 * value + d) cs
    | none => none

def natural? : List Char → Option Nat
  | [] => none
  | c :: cs =>
    match digitValue? c with
    | some d => naturalAfter? d cs
    | none => none

/-- The blank characters that may surround a number. -/
def surroundsNumber (c : Char) : Bool :=
  isBlank c && !(28 ≤ c.toNat && c.toNat ≤ 31)

def trimNumber (cs : List Char) : List Char :=
  ((cs.dropWhile surroundsNumber).reverse.dropWhile surroundsNumber).reverse

def integer? (cs : List Char) : Option Int :=
  match trimNumber cs with
  | '-' :: ds => (natural? ds).map fun n => -(n : Int)
  | '+' :: ds => (natural? ds).map fun n => (n : Int)
  | ds => (natural? ds).map fun n => (n : Int)

/-- The most digits of a number that is read from a text or written as one. -/
def maxDigits : Nat := 4300

def isOverlong (n : Int) : Bool :=
  maxDigits < (Nat.toDigits 10 n.natAbs).length

def tooManyDigits (found : String) : String :=
  s!"Exceeds the limit ({maxDigits} digits) for integer string conversion" ++ found ++
    "; use sys.set_int_max_str_digits() to increase the limit"

def withoutSign : List Char → List Char
  | '-' :: ds => ds
  | '+' :: ds => ds
  | ds => ds

/-- The digits and underscores that a text starts with, after blank characters and a sign. -/
def digitRun (cs : List Char) : List Char :=
  (withoutSign (trimNumber cs)).takeWhile fun c => (digitValue? c).isSome || c == '_'

/-- How many digits a text starts with, whatever follows them; nothing if their underscores are
misplaced. -/
def leadingDigits? (cs : List Char) : Option Nat :=
  (natural? (digitRun cs)).map fun _ => ((digitRun cs).filter (· != '_')).length

end Text
end RBinding

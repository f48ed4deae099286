import RBinding.Double.Shortest

/-!
# RBinding.Double.Layout

Doubles as text. A `Layout` says how the digits of a decimal are arranged: where the point goes, and
when an exponent is written. `Double.text` writes the shortest decimal that reads back, in the one
layout that is used here (`Double.layout`).
-/

namespace RBinding
namespace Double

structure Layout where
  /-- The least exponent of the leading digit that is written without an exponent. -/
  positionalFrom : Int
  /-- The least exponent of the leading digit that is too large for that. -/
  positionalBelow : Int
  /-- What follows a whole number written without an exponent. -/
  wholeSuffix : List Char
  exponentMark : Char
  /-- An exponent has at least this many digits, after its sign. -/
  exponentWidth : Nat

namespace Layout

def decimalDigits (n : Nat) : List Char :=
  Nat.toDigits 10 n

def zeros (n : Nat) : List Char :=
  List.replicate n '0'

def exponentText (l : Layout) (e : Int) : List Char :=
  let ds := decimalDigits e.natAbs
  l.exponentMark :: (if e < 0 then '-' else '+') :: zeros (l.exponentWidth - ds.length) ++ ds

def write (l : Layout) (x : Decimal) : List Char :=
  let ds := decimalDigits x.digits
  let leading : Int := ds.length + x.exponent - 1
  if l.positionalFrom ≤ leading && leading < l.positionalBelow then
    if 0 ≤ x.exponent then ds ++ zeros x.exponent.toNat ++ l.wholeSuffix
    else if 0 ≤ leading then
      ds.take (leading.toNat + 1) ++ '.' :: ds.drop (leading.toNat + 1)
    else '0' :: '.' :: zeros (-leading - 1).toNat ++ ds
  else
    match ds with
    | [d] => d :: l.exponentText leading
    | d :: more => d :: '.' :: more ++ l.exponentText leading
    | [] => []

end Layout

/-- Numbers from a ten-thousandth up to 10 ^ 16 have no exponent, a whole number ends in `.0`, and
an exponent has a sign and at least two digits. -/
def layout : Layout where
  positionalFrom := -4
  positionalBelow := 16
  wholeSuffix := ['.', '0']
  exponentMark := 'e'
  exponentWidth := 2

def magnitudeText (significand : Nat) (exponent : Int) : List Char :=
  if significand = 0 then '0' :: layout.wholeSuffix
  else layout.write (shortest significand exponent)

/-- The shortest text that reads back as the number. -/
def text : Double → String
  | .nan => "nan"
  | .infinite false => "inf"
  | .infinite true => "-inf"
  | .finite false m e => String.ofList (magnitudeText m e)
  | .finite true m e => String.ofList ('-' :: magnitudeText m e)

end Double
end RBinding

import RBinding.Double

/-!
# RBinding.Double.Shortest

The shortest decimal that reads back as a given double. The decimals that read back are those in
an interval around the number that reaches halfway to its two neighbours; the ends belong to it
if the significand is even. On the grid of decimals with 1, 2, … 17 digits only the two neighbours
of the number need to be tried: if any point of a grid lies in the interval, one of them does. The
first grid with a hit wins; of two hits the nearer is taken, and of two equally near the even one.
-/

namespace RBinding
namespace Double

/-- A positive decimal `digits · 10 ^ exponent`. -/
structure Decimal where
  digits : Nat
  exponent : Int
  deriving DecidableEq, Repr

namespace Decimal

/-- Compares `digits · 10 ^ exponent` with `num / den` by their numerators over one denominator. -/
def numerators (x : Decimal) (num den : Nat) : Nat × Nat :=
  match x.exponent with
  | .ofNat e => (x.digits * Nat.pow 10 e * den, num)
  | .negSucc e => (x.digits * den, num * Nat.pow 10 (e + 1))

def atMost (x : Decimal) (num den : Nat) : Bool :=
  let (a, b) := x.numerators num den
  a ≤ b

def atLeast (x : Decimal) (num den : Nat) : Bool :=
  let (a, b) := x.numerators num den
  b ≤ a

def equals (x : Decimal) (num den : Nat) : Bool :=
  let (a, b) := x.numerators num den
  a == b

end Decimal

/-- The numbers that round to one double, with their common denominator. -/
structure Interval where
  low : Nat
  value : Nat
  high : Nat
  den : Nat
  closed : Bool
  deriving DecidableEq, Repr

namespace Interval

/-- The interval of the double `significand · 2 ^ exponent`. Below a power of two the next double
is half as far away, unless the exponent is already the least. -/
def around (significand : Nat) (exponent : Int) : Interval :=
  let atPower := significand == Nat.pow 2 (precision - 1) && exponent != minExponent
  let (unit, den) := ratio 1 exponent
  { low := (4 * significand - if atPower then 1 else 2) * unit
    value := 4 * significand * unit
    high := (4 * significand + 2) * unit
    den := 4 * den
    closed := significand % 2 == 0 }

def holds (i : Interval) (x : Decimal) : Bool :=
  x.atLeast i.low i.den && x.atMost i.high i.den &&
    (i.closed || !(x.equals i.low i.den || x.equals i.high i.den))

/-- The exponent `e` with `10 ^ (e - 1) ≤ value < 10 ^ e`. -/
def magnitude (i : Interval) : Int :=
  if i.den ≤ i.value then digitCount (i.value / i.den)
  else
    let places := digitCount (i.den / i.value)
    if i.den ≤ i.value * Nat.pow 10 (places - 1) then 1 - ((places - 1 : Nat) : Int)
    else 1 - (places : Int)

def neighbours (i : Interval) (exponent : Int) : Decimal × Decimal :=
  let below :=
    match exponent with
    | .ofNat e => i.value / (i.den * Nat.pow 10 e)
    | .negSucc e => i.value * Nat.pow 10 (e + 1) / i.den
  (⟨below, exponent⟩, ⟨below + 1, exponent⟩)

/-- The nearer of two neighbours on a grid; of two equally near, the even one. -/
def nearer (i : Interval) (low high : Decimal) : Decimal :=
  let (a, v) := low.numerators i.value i.den
  let (b, _) := high.numerators i.value i.den
  if v - a < b - v then low
  else if b - v < v - a then high
  else if low.digits % 2 = 0 then low
  else high

def onGrid (i : Interval) (exponent : Int) : Option Decimal :=
  let (low, high) := i.neighbours exponent
  match i.holds low, i.holds high with
  | true, true => some (i.nearer low high)
  | true, false => some low
  | false, true => some high
  | false, false => none

/-- Tries ever finer grids, `steps` in all; the last one gives its nearer neighbour in any case. -/
def search (i : Interval) : Nat → Int → Decimal
  | 0, exponent =>
    let (low, high) := i.neighbours exponent
    i.nearer low high
  | steps + 1, exponent =>
    match i.onGrid exponent with
    | some x => x
    | none => search i steps (exponent - 1)

end Interval

/-- Digits without zeros at the end, and how many zeros there were. At most `fuel` are removed. -/
def dropZeros : Nat → Nat → Nat → Nat × Nat
  | 0, n, zeros => (n, zeros)
  | fuel + 1, n, zeros => if n % 10 = 0 then dropZeros fuel (n / 10) (zeros + 1) else (n, zeros)

/-- The shortest decimal that reads back as `significand · 2 ^ exponent`, which is not zero. -/
def shortest (significand : Nat) (exponent : Int) : Decimal :=
  let i := Interval.around significand exponent
  let x := i.search 16 (i.magnitude - 1)
  let (digits, zeros) := dropZeros 20 x.digits 0
  ⟨digits, x.exponent + zeros⟩

end Double
end RBinding

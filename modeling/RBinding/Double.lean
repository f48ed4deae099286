/-!
# RBinding.Double

Double-precision numbers as exact values. A finite number is `± significand · 2 ^ exponent`; the
significand has at most 53 bits, and the exponent is at least -1074. `ofRatio` rounds a quotient
of natural numbers to the nearest such number, a tie going to the even significand; beyond the
largest finite number it gives infinity.
-/

namespace RBinding

inductive Double where
  | nan
  | infinite (negative : Bool)
  | finite (negative : Bool) (significand : Nat) (exponent : Int)
  deriving DecidableEq, Repr

namespace Double

def precision : Nat := 53

/-- The exponent of the smallest positive number. -/
def minExponent : Int := -1074

/-- The exponent of the largest finite number. -/
def maxExponent : Int := 971

/-- The quotient `num / den` as a ratio in units of `2 ^ exponent`. -/
def inUnits (num den : Nat) (exponent : Int) : Nat × Nat :=
  match exponent with
  | .ofNat e => (num, den * Nat.pow 2 e)
  | .negSucc e => (num * Nat.pow 2 (e + 1), den)

/-- The natural number nearest to `num / den`; a tie goes to the even one. -/
def roundRatio (num den : Nat) : Nat :=
  let q := num / den
  let twice := 2 * (num % den)
  if twice < den then q
  else if den < twice then q + 1
  else if q % 2 = 0 then q
  else q + 1

/-- The exponent at which the quotient has a full significand, or the least exponent. -/
def exponentFor (num den : Nat) : Int :=
  let guess : Int := max minExponent ((num.log2 : Int) - (den.log2 : Int) - precision)
  let (n, d) := inUnits num den guess
  if Nat.pow 2 precision ≤ n / d then guess + 1 else guess

/-- Puts a rounded significand back into 53 bits, and goes to infinity above the largest number. -/
def normalise (negative : Bool) (significand : Nat) (exponent : Int) : Double :=
  let (m, e) :=
    if significand = Nat.pow 2 precision then (Nat.pow 2 (precision - 1), exponent + 1)
    else (significand, exponent)
  if maxExponent < e then .infinite negative else .finite negative m e

def ofRatio (negative : Bool) (num den : Nat) : Double :=
  if num = 0 then .finite negative 0 minExponent
  else
    let e := exponentFor num den
    let (n, d) := inUnits num den e
    normalise negative (roundRatio n d) e

/-- The decimal digits of a natural number; none for zero. -/
def digitCount (n : Nat) : Nat :=
  if n = 0 then 0 else (Nat.toDigits 10 n).length

/-- The number nearest to `± digits · 10 ^ exponent`. Values of 310 digits before the point are
infinite, and values with 330 zeros after it vanish, so neither is computed. -/
def ofDecimal (negative : Bool) (digits : Nat) (exponent : Int) : Double :=
  let leading : Int := digitCount digits + exponent
  if digits = 0 || leading < -330 then .finite negative 0 minExponent
  else if 310 < leading then .infinite negative
  else
    match exponent with
    | .ofNat e => ofRatio negative (digits * Nat.pow 10 e) 1
    | .negSucc e => ofRatio negative digits (Nat.pow 10 (e + 1))

def ratio (significand : Nat) (exponent : Int) : Nat × Nat :=
  match exponent with
  | .ofNat e => (significand * Nat.pow 2 e, 1)
  | .negSucc e => (significand, Nat.pow 2 (e + 1))

def toInt? : Double → Option Int
  | .nan => none
  | .infinite _ => none
  | .finite negative m e =>
    let (n, d) := ratio m e
    if n % d = 0 then some (if negative then -((n / d : Nat) : Int) else ((n / d : Nat) : Int))
    else none

def scale (x : Double) (factor : Nat) : Double :=
  match x with
  | .nan => .nan
  | .infinite negative => if factor = 0 then .nan else .infinite negative
  | .finite negative m e =>
    let (n, d) := ratio m e
    ofRatio negative (n * factor) d

/-- The absolute value of a finite number, rounded to a whole number; a tie goes to the even one. -/
def roundAbs : Double → Nat
  | .nan => 0
  | .infinite _ => 0
  | .finite _ m e =>
    let (n, d) := ratio m e
    roundRatio n d

end Double

end RBinding

import RBinding.Double.Layout
import RBinding.Text.Integer
import RBinding.Text.Quoted

/-!
# RBinding.Value

Python values, as far as they can stand as defaults of parameters. A value of any other type is
known by the name of its type alone (`Value.other`).

`Value.typeName` names the type of a value, and `Value.shown?` writes a value the way messages
show it, unless a number in it has too many digits. A dictionary holds its entries in order;
`Value.ofEntries` builds one from entries given one after the other, where a key that is equal to an
earlier one keeps the earlier key and place.
-/

namespace RBinding

inductive Value where
  | null
  | boolean (b : Bool)
  | integer (n : Int)
  | real (x : Double)
  | text (s : String)
  | list (vs : List Value)
  | tuple (vs : List Value)
  | dict (entries : List (Value × Value))
  | other (typeName : String)

namespace Value

instance : Inhabited Value := ⟨.null⟩

def typeName : Value → String
  | .null => "NoneType"
  | .boolean _ => "bool"
  | .integer _ => "int"
  | .real _ => "float"
  | .text _ => "str"
  | .list _ => "list"
  | .tuple _ => "tuple"
  | .dict _ => "dict"
  | .other name => name

def isText : Value → Bool
  | .text _ => true
  | _ => false

def integerText : Int → List Char
  | .ofNat n => Nat.toDigits 10 n
  | .negSucc n => '-' :: Nat.toDigits 10 (n + 1)

def integerText? (n : Int) : Option (List Char) :=
  if Text.isOverlong n then none else some (integerText n)

def bracketed (opening closing : String) (items : List String) : String :=
  opening ++ ", ".intercalate items ++ closing

/-- A tuple of one item has a comma after it. -/
def tupleText : List String → String
  | [item] => "(" ++ item ++ ",)"
  | items => bracketed "(" ")" items

mutual

def shown? : Value → Option String
  | .null => some "None"
  | .boolean true => some "True"
  | .boolean false => some "False"
  | .integer n => (integerText? n).map String.ofList
  | .real x => some x.text
  | .text s => some (Text.quoted s)
  | .list vs => (shownAll? vs).map (bracketed "[" "]")
  | .tuple vs => (shownAll? vs).map tupleText
  | .dict es => (shownEntries? es).map (bracketed "\x7b" "\x7d")
  | .other name => some ("<" ++ name ++ " object>")

def shownAll? : List Value → Option (List String)
  | [] => some []
  | v :: vs =>
    match shown? v, shownAll? vs with
    | some item, some items => some (item :: items)
    | _, _ => none

def shownEntries? : List (Value × Value) → Option (List String)
  | [] => some []
  | (k, v) :: es =>
    match shown? k, shown? v, shownEntries? es with
    | some key, some item, some items => some ((key ++ ": " ++ item) :: items)
    | _, _, _ => none

end

/-- The whole number that a value counts as: truth values count as 1 and 0. -/
def toInt? : Value → Option Int
  | .boolean b => some (if b then 1 else 0)
  | .integer n => some n
  | .real x => x.toInt?
  | _ => none

mutual

/-- Two keys are one if they are equal numbers, equal texts, or tuples of such items. -/
def sameKey : Value → Value → Bool
  | .null, .null => true
  | .text s, .text t => s == t
  | .tuple vs, .tuple ws => sameKeys vs ws
  | .real x, .real y =>
    match x.toInt?, y.toInt? with
    | some m, some n => m == n
    | none, none => x != .nan && x == y
    | _, _ => false
  | v, w =>
    match v.toInt?, w.toInt? with
    | some m, some n => m == n
    | _, _ => false

def sameKeys : List Value → List Value → Bool
  | [], [] => true
  | v :: vs, w :: ws => sameKey v w && sameKeys vs ws
  | _, _ => false

end

/-- Adds an entry, or gives a key that is present its new value. -/
def putEntry (key value : Value) : List (Value × Value) → List (Value × Value)
  | [] => [(key, value)]
  | (k, v) :: es => if k.sameKey key then (k, value) :: es else (k, v) :: putEntry key value es

def ofEntries (es : List (Value × Value)) : Value :=
  .dict (es.foldl (fun built e => putEntry e.1 e.2 built) [])

end Value

end RBinding

import RBinding.Failure
import RBinding.Value

/-!
# RBinding.Options.Tags

Extra tags as a caller may give them: not at all, as a dictionary, or as a sequence of pairs. They
are brought into the form of a dictionary (`tagEntries`) before the options are checked. In a
sequence each element must itself be a sequence, of a key and a value; a text counts as the sequence
of its characters, and a dictionary as that of its keys. The first element that is none ends the
reading.
-/

namespace RBinding
namespace Options

def isNothing : Value → Bool
  | .null => true
  | .boolean b => !b
  | .integer n => n == 0
  | .real x => x.toInt? == some 0
  | .text s => s.isEmpty
  | .list vs => vs.isEmpty
  | .tuple vs => vs.isEmpty
  | .dict es => es.isEmpty
  | .other _ => false

def elements? : Value → Option (List Value)
  | .text s => some (s.toList.map fun c => .text (String.ofList [c]))
  | .list vs => some vs
  | .tuple vs => some vs
  | .dict es => some (es.map Prod.fst)
  | _ => none

mutual

/-- The type of the first part of a value that keeps it from being a key. -/
def noKey? : Value → Option String
  | .list vs => some (Value.list vs).typeName
  | .dict es => some (Value.dict es).typeName
  | .tuple vs => noKeyIn? vs
  | _ => none

def noKeyIn? : List Value → Option String
  | [] => none
  | v :: vs =>
    match noKey? v with
    | some typeName => some typeName
    | none => noKeyIn? vs

end

def pair (number : Nat) (v : Value) : Except Failure (Value × Value) :=
  match elements? v with
  | none =>
    .error (.exception ⟨.type,
      s!"cannot convert dictionary update sequence element #{number} to a sequence"⟩)
  | some [key, value] =>
    match noKey? key with
    | none => .ok (key, value)
    | some typeName => .error (.exception ⟨.type, s!"unhashable type: '{typeName}'"⟩)
  | some vs =>
    .error (.exception ⟨.value,
      s!"dictionary update sequence element #{number} has length {vs.length}; 2 is required"⟩)

/-- The pairs in a sequence whose first element has the given number. -/
def pairs (number : Nat) : List Value → Except Failure (List (Value × Value))
  | [] => .ok []
  | v :: vs =>
    match pair number v with
    | .error e => .error e
    | .ok e =>
      match pairs (number + 1) vs with
      | .error e => .error e
      | .ok es => .ok (e :: es)

def tagEntries (given : Value) : Except Failure Value :=
  if isNothing given then .ok (.dict [])
  else
    match given with
    | .dict es => .ok (.dict es)
    | v =>
      match elements? v with
      | none => .error (.exception ⟨.type, s!"'{v.typeName}' object is not iterable"⟩)
      | some vs =>
        match pairs 0 vs with
        | .error e => .error e
        | .ok es => .ok (Value.ofEntries es)

end Options
end RBinding

import RBinding.Proofs.Literal.Grammar

/-!
# RBinding.Proofs.Literal.Plain

Plain values and their literals. A value is `Plain` if it is made of the forms that R can tell
apart, and `Value.unified` takes away what R cannot: a tuple becomes a list, and so does a
dictionary without entries. Unifying does not change the literal (`chars?_unified`). A whole number
is read off its literal (`integer_inj`), and the first character of a literal tells its kind
(`kindOf`).
-/

namespace RBinding

namespace Value

/-- Entries whose keys are texts. -/
def keyed (es : List (String × Value)) : List (Value × Value) :=
  es.map fun e => (.text e.1, e.2)

/-- Values made of truth values, whole numbers, texts and `None`, in lists, tuples and dictionaries
whose keys are texts. -/
inductive Plain : Value → Prop where
  | null : Plain .null
  | boolean (b : Bool) : Plain (.boolean b)
  | integer (n : Int) : Plain (.integer n)
  | text (s : String) : Plain (.text s)
  | list {vs : List Value} : (∀ v ∈ vs, Plain v) → Plain (.list vs)
  | tuple {vs : List Value} : (∀ v ∈ vs, Plain v) → Plain (.tuple vs)
  | dict {es : List (String × Value)} : (∀ e ∈ es, Plain e.2) → Plain (.dict (keyed es))

mutual

/-- The value with lists for tuples, and a list for a dictionary without entries. -/
def unified : Value → Value
  | .list vs => .list (unifiedAll vs)
  | .tuple vs => .list (unifiedAll vs)
  | .dict [] => .list []
  | .dict ((k, v) :: es) => .dict ((k, unified v) :: unifiedEntries es)
  | v => v

def unifiedAll : List Value → List Value
  | [] => []
  | v :: vs => unified v :: unifiedAll vs

def unifiedEntries : List (Value × Value) → List (Value × Value)
  | [] => []
  | (k, v) :: es => (k, unified v) :: unifiedEntries es

end

theorem unifiedAll_eq (vs : List Value) : unifiedAll vs = vs.map unified := by
  induction vs with
  | nil => rw [unifiedAll, List.map_nil]
  | cons v vs ih => rw [unifiedAll, List.map_cons, ih]

/-- The entries of a dictionary, with their values unified. -/
def unifiedFields (es : List (String × Value)) : List (String × Value) :=
  es.map fun e => (e.1, unified e.2)

theorem unifiedEntries_keyed (es : List (String × Value)) :
    unifiedEntries (keyed es) = keyed (unifiedFields es) := by
  induction es with
  | nil => rw [keyed, List.map_nil, unifiedEntries]; rfl
  | cons e es ih =>
    rw [keyed, List.map_cons, unifiedEntries]
    exact congrArg _ ih

theorem unified_keyed_nil : unified (.dict (keyed [])) = .list [] := by
  rw [keyed, List.map_nil, unified]

theorem unified_keyed_cons (e : String × Value) (es : List (String × Value)) :
    unified (.dict (keyed (e :: es))) = .dict (keyed (unifiedFields (e :: es))) := by
  rw [← unifiedEntries_keyed, keyed, List.map_cons, unified, unifiedEntries]

end Value

namespace Literal

open Value

theorem chars?_list (vs : List Value) : chars? (.list vs) = (args? vs).map listCall := by
  rw [chars?]
  cases args? vs <;> rfl

theorem chars?_tuple (vs : List Value) : chars? (.tuple vs) = (args? vs).map listCall := by
  rw [chars?]
  cases args? vs <;> rfl

theorem chars?_dict (es : List (Value × Value)) :
    chars? (.dict es) = (namedArgs? es).map listCall := by
  rw [chars?]
  cases namedArgs? es <;> rfl

mutual

theorem chars?_unified (v : Value) : chars? v.unified = chars? v := by
  cases v with
  | list vs => rw [unified, chars?_list, chars?_list, args?_unifiedAll]
  | tuple vs => rw [unified, chars?_list, chars?_tuple, args?_unifiedAll]
  | dict es =>
    cases es with
    | nil => rw [unified, chars?_list, chars?_dict, args?, namedArgs?]
    | cons e es =>
      rcases e with ⟨k, v⟩
      rw [unified, chars?_dict, chars?_dict]
      have h := namedArgs?_unifiedEntries ((k, v) :: es)
      rw [unifiedEntries] at h
      rw [h]
  | _ => rw [unified] <;> simp

theorem args?_unifiedAll (vs : List Value) : args? (unifiedAll vs) = args? vs := by
  cases vs with
  | nil => rw [unifiedAll]
  | cons v vs => rw [unifiedAll, args?, args?, chars?_unified, args?_unifiedAll]

theorem namedArgs?_unifiedEntries (es : List (Value × Value)) :
    namedArgs? (unifiedEntries es) = namedArgs? es := by
  cases es with
  | nil => rw [unifiedEntries]
  | cons e es =>
    rcases e with ⟨k, v⟩
    rw [unifiedEntries]
    cases k with
    | text name => rw [namedArgs?, namedArgs?, chars?_unified, namedArgs?_unifiedEntries]
    | _ => rfl

end

theorem integerText_inj {m n : Int} (h : integerText m = integerText n) : m = n := by
  have hdigits : ∀ {a b : Nat}, Nat.toDigits 10 a = Nat.toDigits 10 b → a = b := by
    intro a b hab
    rw [← Nat.ofDigitChars_ten_toDigits (n := a), hab, Nat.ofDigitChars_ten_toDigits]
  have hsign : ∀ {a : Nat} {cs : List Char}, Nat.toDigits 10 a ≠ '-' :: cs := by
    intro a cs heq
    have hdigit : '-' ∈ Nat.toDigits 10 a := heq ▸ List.mem_cons_self
    exact absurd (Nat.isDigit_of_mem_toDigits (by omega) (by omega) hdigit) (by decide)
  cases m with
  | ofNat a =>
    cases n with
    | ofNat b => exact congrArg Int.ofNat (hdigits h)
    | negSucc b => exact absurd h hsign
  | negSucc a =>
    cases n with
    | ofNat b => exact absurd h.symm hsign
    | negSucc b =>
      have hsucc := hdigits (List.cons.inj h).2
      rw [Nat.succ.inj hsucc]

theorem suffix_not_mem_integerText (n : Int) : 'L' ∉ integerText n := by
  intro hmem
  exact absurd (List.all_eq_true.mp (isNumeral_integerText n) 'L' hmem) (by decide)

/-- The suffix tells whether the number fits R's integer type. -/
theorem getLast?_integer {n : Int} {text : List Char} (h : integer? n = .ok text) :
    text.getLast? = some 'L' ↔ n.natAbs ≤ maxInteger := by
  obtain ⟨-, rfl⟩ := integer?_eq_ok_iff.mp h
  by_cases hfits : n.natAbs ≤ maxInteger
  · rw [if_pos hfits]
    simp [hfits]
  · rw [if_neg hfits]
    simp only [hfits, iff_false]
    intro hlast
    exact suffix_not_mem_integerText n (List.mem_of_getLast? hlast)

theorem integer_inj {m n : Int} {text : List Char} (h : integer? m = .ok text)
    (h' : integer? n = .ok text) : m = n := by
  have hfits : m.natAbs ≤ maxInteger ↔ n.natAbs ≤ maxInteger := by
    rw [← getLast?_integer h, getLast?_integer h']
  obtain ⟨-, htext⟩ := integer?_eq_ok_iff.mp h
  obtain ⟨-, htext'⟩ := integer?_eq_ok_iff.mp h'
  by_cases hm : m.natAbs ≤ maxInteger
  · rw [if_pos hm] at htext
    rw [if_pos (hfits.mp hm)] at htext'
    exact integerText_inj (List.append_cancel_right (htext.symm.trans htext'))
  · rw [if_neg hm] at htext
    rw [if_neg fun hn => hm (hfits.mpr hn)] at htext'
    exact integerText_inj (htext.symm.trans htext')

inductive Kind where
  | word
  | number
  | string
  | call
  deriving DecidableEq, Repr

/-- The kind of a literal by its first character. -/
def kindOf (c : Char) : Kind :=
  if c = '"' then .string
  else if c = 'l' then .call
  else if Double.isNumeral c then .number
  else .word

def kind : Value → Kind
  | .integer _ => .number
  | .text _ => .string
  | .list _ => .call
  | .tuple _ => .call
  | .dict _ => .call
  | _ => .word

theorem exists_integer_cons {n : Int} {text : List Char} (h : integer? n = .ok text) :
    ∃ c cs, text = c :: cs ∧ Double.isNumeral c = true := by
  obtain ⟨-, rfl⟩ := integer?_eq_ok_iff.mp h
  obtain ⟨c, cs, hcons⟩ : ∃ c cs, integerText n = c :: cs := by
    refine List.exists_cons_of_ne_nil ?_
    cases n with
    | ofNat n => exact Nat.toDigits_ne_nil
    | negSucc n => exact List.cons_ne_nil _ _
  have hall := isNumeral_integerText n
  rw [hcons, List.all_cons, Bool.and_eq_true] at hall
  rw [hcons]
  split
  · exact ⟨c, cs ++ ['L'], rfl, hall.1⟩
  · exact ⟨c, cs, rfl, hall.1⟩

end Literal
end RBinding

import RBinding.Literal

/-!
# RBinding.Proofs.Literal.Grammar

What literals are made of: words and numbers, which are written with a few characters only
(`Double.isNumeral_text` says which the text of a finite number may hold), strings, and calls of
`list` whose arguments may have names (`IsArgument`). So what holds of these, and of what is put
together from them, holds of every literal (`isArgument_chars`).
-/

namespace RBinding

namespace Double

def isNumeral (c : Char) : Bool :=
  c.isDigit || c == '.' || c == 'e' || c == '+' || c == '-'

theorem isNumeral_of_isDigit {c : Char} (h : c.isDigit = true) : isNumeral c = true := by
  simp [isNumeral, h]

namespace Layout

theorem isNumeral_decimalDigits (n : Nat) : (decimalDigits n).all isNumeral = true := by
  rw [List.all_eq_true]
  intro c hc
  exact isNumeral_of_isDigit (Nat.isDigit_of_mem_toDigits (by omega) (by omega) hc)

theorem isNumeral_zeros (n : Nat) : (zeros n).all isNumeral = true := by
  rw [List.all_eq_true]
  intro c hc
  rw [List.eq_of_mem_replicate hc]
  rfl

theorem isNumeral_exponentText (e : Int) : (layout.exponentText e).all isNumeral = true := by
  simp only [exponentText, List.cons_append, List.all_cons, List.all_append, Bool.and_eq_true]
  refine ⟨rfl, ?_, isNumeral_zeros _, isNumeral_decimalDigits _⟩
  split <;> rfl

theorem isNumeral_write (x : Decimal) : (layout.write x).all isNumeral = true := by
  have hdigits := isNumeral_decimalDigits x.digits
  have hpoint : isNumeral '.' = true := rfl
  simp only [write]
  split
  · split
    · simp only [List.all_append, Bool.and_eq_true]
      exact ⟨⟨hdigits, isNumeral_zeros _⟩, rfl⟩
    · rw [List.all_eq_true] at hdigits
      split
      · simp only [List.all_append, List.all_cons, Bool.and_eq_true, List.all_eq_true]
        exact ⟨fun c hc => hdigits c (List.mem_of_mem_take hc), hpoint,
          fun c hc => hdigits c (List.mem_of_mem_drop hc)⟩
      · simp only [List.all_append, List.all_cons, Bool.and_eq_true, List.all_eq_true]
        exact ⟨⟨rfl, hpoint, List.all_eq_true.mp (isNumeral_zeros _)⟩, hdigits⟩
  · split
    · next d hd =>
      rw [hd] at hdigits
      simp only [List.all_cons, Bool.and_eq_true] at hdigits ⊢
      exact ⟨hdigits.1, isNumeral_exponentText _⟩
    · next d more _ hd =>
      rw [hd] at hdigits
      simp only [List.cons_append, List.all_cons, List.all_append, Bool.and_eq_true] at hdigits ⊢
      exact ⟨hdigits.1, hpoint, hdigits.2, isNumeral_exponentText _⟩
    · rfl

end Layout

theorem isNumeral_magnitudeText (significand : Nat) (exponent : Int) :
    (magnitudeText significand exponent).all isNumeral = true := by
  rw [magnitudeText]
  split
  · rfl
  · exact Layout.isNumeral_write _

theorem isNumeral_text (negative : Bool) (significand : Nat) (exponent : Int) :
    (text (.finite negative significand exponent)).toList.all isNumeral = true := by
  have h := isNumeral_magnitudeText significand exponent
  cases negative
  · rwa [text, String.toList_ofList]
  · rw [text, String.toList_ofList, List.all_cons, h]
    rfl

end Double

namespace Literal

/-- The characters of words and numbers. -/
def isWordChar (c : Char) : Bool :=
  c.isAlphanum || c == '.' || c == '+' || c == '-'

theorem isWordChar_of_isNumeral {c : Char} (h : Double.isNumeral c = true) :
    isWordChar c = true := by
  simp only [Double.isNumeral, Bool.or_eq_true, beq_iff_eq] at h
  rcases h with (((h | rfl) | rfl) | rfl) | rfl
  · simp [isWordChar, Char.isAlphanum, h]
  all_goals rfl

theorem all_isWordChar {text : List Char} (h : text.all Double.isNumeral = true) :
    text.all isWordChar = true := by
  rw [List.all_eq_true] at h ⊢
  exact fun c hc => isWordChar_of_isNumeral (h c hc)

theorem isNumeral_integerText (n : Int) :
    (Value.integerText n).all Double.isNumeral = true := by
  cases n with
  | ofNat n => exact Double.Layout.isNumeral_decimalDigits n
  | negSucc n => exact Double.Layout.isNumeral_decimalDigits (n + 1)

/-- A whole number is written if it does not have too many digits, with a suffix if it is small. -/
theorem integer?_eq_ok_iff {n : Int} {text : List Char} :
    integer? n = .ok text ↔ Text.isOverlong n = false ∧
      text =
        if n.natAbs ≤ maxInteger then Value.integerText n ++ ['L'] else Value.integerText n := by
  rw [integer?, Value.integerText?]
  cases Text.isOverlong n <;> simp [eq_comm]

theorem isWordChar_integer {n : Int} {text : List Char} (h : integer? n = .ok text) :
    text.all isWordChar = true := by
  have hdigits := all_isWordChar (isNumeral_integerText n)
  obtain ⟨-, rfl⟩ := integer?_eq_ok_iff.mp h
  split
  · rw [List.all_append, hdigits]
    rfl
  · exact hdigits

theorem isWordChar_real (x : Double) : (real x).all isWordChar = true := by
  cases x with
  | nan => rfl
  | infinite negative => cases negative <;> rfl
  | finite negative m e => exact all_isWordChar (Double.isNumeral_text negative m e)

theorem listCall_eq (args : List (List Char)) :
    listCall args =
      'l' :: 'i' :: 's' :: 't' :: '(' :: ([',', ' '].intercalate args ++ [')']) :=
  rfl

/-- The text of a literal, or of one with a name before it. -/
inductive IsArgument : List Char → Prop where
  | word {text : List Char} : text.all isWordChar = true → IsArgument text
  | string (s : String) : IsArgument (string s)
  | named (name : String) {text : List Char} :
      IsArgument text → IsArgument (string name ++ " = ".toList ++ text)
  | call {args : List (List Char)} : (∀ a ∈ args, IsArgument a) → IsArgument (listCall args)

mutual

theorem isArgument_chars {v : Value} {text : List Char} (h : chars? v = .ok text) :
    IsArgument text := by
  cases v with
  | null =>
    cases h
    exact .word (by decide)
  | boolean b =>
    cases b <;> cases h <;> exact .word (by decide)
  | integer n => exact .word (isWordChar_integer h)
  | real x =>
    cases h
    exact .word (isWordChar_real x)
  | text s =>
    cases h
    exact .string s
  | list vs =>
    rw [chars?] at h
    split at h
    · cases h
    · next args hargs =>
      cases h
      exact .call (isArgument_args hargs)
  | tuple vs =>
    rw [chars?] at h
    split at h
    · cases h
    · next args hargs =>
      cases h
      exact .call (isArgument_args hargs)
  | dict es =>
    rw [chars?] at h
    split at h
    · cases h
    · next args hargs =>
      cases h
      exact .call (isArgument_namedArgs hargs)
  | other name => cases h

theorem isArgument_args {vs : List Value} {args : List (List Char)} (h : args? vs = .ok args) :
    ∀ a ∈ args, IsArgument a := by
  cases vs with
  | nil =>
    cases h
    simp
  | cons v vs =>
    rw [args?] at h
    split at h
    · cases h
    · next arg harg =>
      split at h
      · cases h
      · next more hmore =>
        cases h
        exact List.forall_mem_cons.mpr ⟨isArgument_chars harg, isArgument_args hmore⟩

theorem isArgument_namedArgs {es : List (Value × Value)} {args : List (List Char)}
    (h : namedArgs? es = .ok args) : ∀ a ∈ args, IsArgument a := by
  cases es with
  | nil =>
    cases h
    simp
  | cons e es =>
    rcases e with ⟨key, v⟩
    cases key with
    | text name =>
      rw [namedArgs?] at h
      split at h
      · cases h
      · next arg harg =>
        split at h
        · cases h
        · next more hmore =>
          cases h
          exact List.forall_mem_cons.mpr
            ⟨.named name (isArgument_chars harg), isArgument_namedArgs hmore⟩
    | _ => cases h

end

end Literal

end RBinding

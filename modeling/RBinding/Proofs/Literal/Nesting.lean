import RBinding.Proofs.Literal.Grammar
import RBinding.Proofs.Literal.Strings

/-!
# RBinding.Proofs.Literal.Nesting

Literals inside other text. A reader that skips strings in double quotes and counts parentheses
comes out of a literal at the depth at which it went in: no parenthesis is closed that the literal
did not open, and no comma stands outside of the parentheses of the literal (`Legible.nested`). All
that is written shows in ASCII.
-/

namespace RBinding
namespace Literal

/-- Where a reader stands: outside of strings, inside of one, or there after a backslash. The depth
counts the parentheses that are open. -/
inductive Place where
  | code (depth : Nat)
  | string (depth : Nat)
  | escape (depth : Nat)
  deriving DecidableEq, Repr

namespace Place

/-- The place after a character. There is none after a parenthesis that closes nothing, nor after a
comma that stands outside of all parentheses. -/
def next? : Place → Char → Option Place
  | .code depth, '"' => some (.string depth)
  | .code depth, '(' => some (.code (depth + 1))
  | .code 0, ')' => none
  | .code (depth + 1), ')' => some (.code depth)
  | .code 0, ',' => none
  | .code depth, _ => some (.code depth)
  | .string depth, '"' => some (.code depth)
  | .string depth, '\\' => some (.escape depth)
  | .string depth, _ => some (.string depth)
  | .escape depth, _ => some (.string depth)

def after? (p : Place) (text : List Char) : Option Place :=
  text.foldlM next? p

theorem after?_cons {p q : Place} {c : Char} (h : p.next? c = some q) (text : List Char) :
    p.after? (c :: text) = q.after? text := by
  simp [after?, h]

theorem after?_append {p q : Place} {xs : List Char} (h : p.after? xs = some q)
    (ys : List Char) : p.after? (xs ++ ys) = q.after? ys := by
  rw [after?, List.foldlM_append]
  rw [after?] at h
  rw [h]
  rfl

theorem next?_code {c : Char} (h : c ≠ '"' ∧ c ≠ '(' ∧ c ≠ ')' ∧ c ≠ ',') (depth : Nat) :
    (code depth).next? c = some (.code depth) := by
  unfold next?
  split <;> simp_all

theorem next?_string {c : Char} (h : c ≠ '"' ∧ c ≠ '\\') (depth : Nat) :
    (string depth).next? c = some (.string depth) := by
  unfold next?
  split <;> simp_all

end Place

/-- The text shows, and a reader comes out of it as it went in. -/
structure Legible (text : List Char) : Prop where
  shown : ∀ c ∈ text, IsShown c
  nested : ∀ depth, (Place.code depth).after? text = some (.code depth)

theorem Legible.append {xs ys : List Char} (hx : Legible xs) (hy : Legible ys) :
    Legible (xs ++ ys) where
  shown := by
    intro c hc
    exact (List.mem_append.mp hc).elim (hx.shown c) (hy.shown c)
  nested := by
    intro depth
    rw [Place.after?_append (hx.nested depth), hy.nested]

theorem isShown_of_between {c : Char} {a b : UInt32} (h : a ≤ c.val ∧ c.val ≤ b)
    (ha : 32 ≤ a.toNat) (hb : b.toNat ≤ 126) : IsShown c :=
  ⟨Nat.le_trans ha (UInt32.le_iff_toNat_le.mp h.1), Nat.le_trans (UInt32.le_iff_toNat_le.mp h.2) hb⟩

theorem isShown_of_isAlphanum {c : Char} (h : c.isAlphanum = true) : IsShown c := by
  have hclass : ((c.isUpper || c.isLower) || c.isDigit) = true := h
  rw [Bool.or_eq_true, Bool.or_eq_true] at hclass
  rcases hclass with (hupper | hlower) | hdigit
  · have hrange : 'A'.val ≤ c.val ∧ c.val ≤ 'Z'.val := of_decide_eq_true hupper
    exact isShown_of_between hrange (by decide) (by decide)
  · have hrange : 'a'.val ≤ c.val ∧ c.val ≤ 'z'.val := by simpa using Bool.and_eq_true_iff.mp hlower
    exact isShown_of_between hrange (by decide) (by decide)
  · have hrange : '0'.val ≤ c.val ∧ c.val ≤ '9'.val := by simpa using Bool.and_eq_true_iff.mp hdigit
    exact isShown_of_between hrange (by decide) (by decide)

theorem isShown_of_isWordChar {c : Char} (h : isWordChar c = true) : IsShown c := by
  simp only [isWordChar, Bool.or_eq_true, beq_iff_eq] at h
  rcases h with ((h | rfl) | rfl) | rfl
  · exact isShown_of_isAlphanum h
  all_goals decide

theorem legible_of_forall {text : List Char}
    (h : ∀ c ∈ text, IsShown c ∧ c ≠ '"' ∧ c ≠ '(' ∧ c ≠ ')' ∧ c ≠ ',') : Legible text where
  shown := fun c hc => (h c hc).1
  nested := by
    intro depth
    induction text with
    | nil => rfl
    | cons c cs ih =>
      obtain ⟨hc, hcs⟩ := List.forall_mem_cons.mp h
      rw [Place.after?_cons (Place.next?_code hc.2 depth)]
      exact ih hcs

theorem legible_word {text : List Char} (h : text.all isWordChar = true) : Legible text := by
  refine legible_of_forall fun c hc => ?_
  have hword := List.all_eq_true.mp h c hc
  refine ⟨isShown_of_isWordChar hword, ?_⟩
  refine ⟨?_, ?_, ?_, ?_⟩ <;> rintro rfl <;> cases hword

theorem after?_unitEscape_inside (n depth : Nat) :
    (Place.string depth).after? (unitEscape n) = some (.string depth) := by
  have hdigits : ∀ text : List Char, text.all Char.isAlphanum = true →
      (Place.string depth).after? text = some (.string depth) := by
    intro text htext
    induction text with
    | nil => rfl
    | cons c cs ih =>
      rw [List.all_cons, Bool.and_eq_true] at htext
      have hc : c ≠ '"' ∧ c ≠ '\\' := by
        constructor <;> rintro rfl <;> cases htext.1
      rw [Place.after?_cons (Place.next?_string hc depth)]
      exact ih htext.2
  have hmark : (Place.string depth).after? ['\\', 'u'] = some (.string depth) := rfl
  exact (Place.after?_append hmark _).trans (hdigits _ (Text.isAlphanum_hexDigits 4 n))

theorem after?_isEscape_inside {c : Char} {text : List Char} (h : IsEscape c text) (depth : Nat) :
    (Place.string depth).after? text = some (.string depth) := by
  cases h with
  | plain _ hquote hescape =>
    exact Place.after?_cons (Place.next?_string ⟨hquote, hescape⟩ depth) []
  | short => rfl
  | unit n => exact after?_unitEscape_inside n depth
  | pair m n =>
    rw [Place.after?_append (after?_unitEscape_inside m depth), after?_unitEscape_inside]

theorem legible_string (s : String) : Legible (string s) where
  shown := isShown_string s
  nested := by
    intro depth
    have hopen : (Place.code depth).next? '"' = some (.string depth) := by
      cases depth <;> rfl
    have hchars : (Place.string depth).after? (s.toList.flatMap escapedChar) =
        some (.string depth) := by
      induction s.toList with
      | nil => rfl
      | cons c cs ih =>
        rw [List.flatMap_cons,
          Place.after?_append (after?_isEscape_inside (isEscape_escapedChar c) depth), ih]
    rw [string, List.cons_append, Place.after?_cons hopen, Place.after?_append hchars]
    rfl

theorem legible_named (name : String) {text : List Char} (h : Legible text) :
    Legible (string name ++ " = ".toList ++ text) := by
  have hequals : Legible " = ".toList := by
    refine legible_of_forall fun c hc => ?_
    obtain rfl | rfl : c = ' ' ∨ c = '=' := by simpa [or_comm] using hc
    · decide
    · decide
  exact ((legible_string name).append hequals).append h

theorem after?_intercalate_inside {args : List (List Char)} (h : ∀ a ∈ args, Legible a)
    (depth : Nat) :
    (Place.code (depth + 1)).after? ([',', ' '].intercalate args) = some (.code (depth + 1)) := by
  induction args with
  | nil => rfl
  | cons a args ih =>
    obtain ⟨ha, hargs⟩ := List.forall_mem_cons.mp h
    cases args with
    | nil =>
      rw [List.intercalate_singleton]
      exact ha.nested (depth + 1)
    | cons b more =>
      rw [List.intercalate_cons_cons, List.append_assoc, Place.after?_append (ha.nested _)]
      exact ih hargs

theorem isShown_intercalate {args : List (List Char)} (h : ∀ a ∈ args, Legible a) :
    ∀ c ∈ [',', ' '].intercalate args, IsShown c := by
  induction args with
  | nil => simp
  | cons a args ih =>
    obtain ⟨ha, hargs⟩ := List.forall_mem_cons.mp h
    cases args with
    | nil =>
      rw [List.intercalate_singleton]
      exact ha.shown
    | cons b more =>
      intro c hc
      rw [List.intercalate_cons_cons] at hc
      simp only [List.mem_append, List.mem_cons, List.not_mem_nil, or_false] at hc
      rcases hc with (hc | rfl | rfl) | hc
      · exact ha.shown c hc
      · decide
      · decide
      · exact ih hargs c hc

theorem legible_listCall {args : List (List Char)} (h : ∀ a ∈ args, Legible a) :
    Legible (listCall args) where
  shown := by
    intro c hc
    simp only [listCall_eq, List.mem_cons, List.mem_append, List.not_mem_nil, or_false] at hc
    rcases hc with rfl | rfl | rfl | rfl | rfl | hc | rfl
    all_goals first | decide | exact isShown_intercalate h c hc
  nested := by
    intro depth
    have hname :
        (Place.code depth).after? ['l', 'i', 's', 't', '('] = some (.code (depth + 1)) := by
      cases depth <;> rfl
    have hargs := after?_intercalate_inside h depth
    rw [listCall_eq]
    exact (Place.after?_append hname _).trans ((Place.after?_append hargs _).trans rfl)

theorem legible_of_isArgument {text : List Char} (h : IsArgument text) : Legible text := by
  induction h with
  | word hword => exact legible_word hword
  | string s => exact legible_string s
  | named name _ ih => exact legible_named name ih
  | call _ ih => exact legible_listCall ih

end Literal
end RBinding

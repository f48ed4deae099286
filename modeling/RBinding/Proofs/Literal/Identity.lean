import Mathlib.Data.List.Forall2
import RBinding.Proofs.Header.Literals
import RBinding.Proofs.Literal.Defects
import RBinding.Proofs.Literal.Nesting

/-!
# RBinding.Proofs.Literal.Identity

What a literal tells of its value: plain values with the same literal are the same once they are
unified (`determined_of_plain`).

Calls of `list` are taken apart argument by argument. Arguments are found again between commas
(`listCall_inj`), and a name is told from a value by what follows the string (`not_writes_entry`),
so a list is never taken for a dictionary with entries. The rest is induction on one of the two
values.
-/

namespace RBinding
namespace Literal

open Source Value

/-- The text is the literal of the value. -/
def Writes (v : Value) (text : List Char) : Prop :=
  chars? v = .ok text

/-- The text is a name with the literal of a value after it. -/
def WritesEntry (e : String × Value) (text : List Char) : Prop :=
  ∃ a, Writes e.2 a ∧ text = string e.1 ++ " = ".toList ++ a

theorem forall₂_args {vs : List Value} {args : List (List Char)} (h : args? vs = .ok args) :
    List.Forall₂ Writes vs args := by
  induction vs generalizing args with
  | nil =>
    cases h
    exact .nil
  | cons v vs ih =>
    rw [args?] at h
    split at h
    · cases h
    · next arg harg =>
      split at h
      · cases h
      · next more hmore =>
        cases h
        exact .cons harg (ih hmore)

theorem forall₂_namedArgs {es : List (String × Value)} {args : List (List Char)}
    (h : namedArgs? (keyed es) = .ok args) : List.Forall₂ WritesEntry es args := by
  induction es generalizing args with
  | nil =>
    cases h
    exact .nil
  | cons e es ih =>
    rw [keyed, List.map_cons, namedArgs?] at h
    split at h
    · cases h
    · next arg harg =>
      split at h
      · cases h
      · next more hmore =>
        cases h
        exact .cons ⟨arg, harg, rfl⟩ (ih hmore)

/-- How a value comes to be written as a call of `list`. -/
inductive Called (v : Value) (text : List Char) : Prop where
  | sequence {vs : List Value} {args : List (List Char)} :
      (∀ x ∈ vs, Plain x) → v.unified = .list (vs.map unified) →
      List.Forall₂ Writes vs args → text = listCall args → Called v text
  | entries {e : String × Value} {es : List (String × Value)} {args : List (List Char)} :
      (∀ x ∈ e :: es, Plain x.2) →
      v.unified = .dict (keyed (unifiedFields (e :: es))) →
      List.Forall₂ WritesEntry (e :: es) args → text = listCall args → Called v text

theorem exists_of_map_ok {α β ε : Type} {x : Except ε α} {f : α → β} {b : β}
    (h : x.map f = .ok b) : ∃ a, x = .ok a ∧ b = f a := by
  cases x with
  | error e => cases h
  | ok a => exact ⟨a, rfl, (Except.ok.inj h).symm⟩

theorem called_of_plain {v : Value} {text : List Char} (hv : Plain v) (hkind : kind v = .call)
    (h : Writes v text) : Called v text := by
  cases hv with
  | list hvs =>
    rw [Writes, chars?_list] at h
    obtain ⟨args, hargs, htext⟩ := exists_of_map_ok h
    exact .sequence hvs (by rw [unified, unifiedAll_eq]) (forall₂_args hargs) htext
  | tuple hvs =>
    rw [Writes, chars?_tuple] at h
    obtain ⟨args, hargs, htext⟩ := exists_of_map_ok h
    exact .sequence hvs (by rw [unified, unifiedAll_eq]) (forall₂_args hargs) htext
  | @dict es hes =>
    rw [Writes, chars?_dict] at h
    obtain ⟨args, hargs, htext⟩ := exists_of_map_ok h
    have hforall := forall₂_namedArgs hargs
    cases es with
    | nil =>
      cases hforall
      exact @Called.sequence _ _ [] _ (by simp) unified_keyed_nil .nil htext
    | cons e es => exact .entries hes (unified_keyed_cons e es) hforall htext
  | _ => cases hkind

/-- A literal is not empty, does not start with a blank, and starts as its kind does. -/
theorem exists_cons_of_plain {v : Value} {text : List Char} (hv : Plain v) (h : Writes v text) :
    ∃ c cs, text = c :: cs ∧ c ≠ ' ' ∧ kindOf c = kind v := by
  cases hkind : kind v with
  | word =>
    cases hv with
    | null =>
      cases h
      exact ⟨'N', _, rfl, by decide, rfl⟩
    | boolean b =>
      cases b
      · cases h
        exact ⟨'F', _, rfl, by decide, rfl⟩
      · cases h
        exact ⟨'T', _, rfl, by decide, rfl⟩
    | _ => cases hkind
  | number =>
    cases hv with
    | integer n =>
      obtain ⟨c, cs, hcons, hc⟩ := exists_integer_cons h
      have hne : c ≠ ' ' ∧ c ≠ '"' ∧ c ≠ 'l' := by
        refine ⟨?_, ?_, ?_⟩ <;> rintro rfl <;> cases hc
      exact ⟨c, cs, hcons, hne.1, by simp [kindOf, hne.2, hc]⟩
    | _ => cases hkind
  | string =>
    cases hv with
    | text s =>
      cases h
      exact ⟨'"', _, rfl, by decide, rfl⟩
    | _ => cases hkind
  | call =>
    obtain ⟨args, rfl⟩ : ∃ args, text = listCall args := by
      cases called_of_plain hv hkind h with
      | sequence _ _ _ htext => exact ⟨_, htext⟩
      | entries _ _ _ htext => exact ⟨_, htext⟩
    exact ⟨'l', _, listCall_eq args, by decide, rfl⟩

/-- The text is found again between commas. -/
structure Separable (text : List Char) : Prop where
  selfContained : SelfContained text
  ne_nil : text ≠ []
  withoutBlanks_eq : withoutBlanks text = text

theorem listCall_inj {xs ys : List (List Char)} (hx : ∀ a ∈ xs, Separable a)
    (hy : ∀ a ∈ ys, Separable a) (h : listCall xs = listCall ys) : xs = ys := by
  rw [listCall_eq, listCall_eq] at h
  simp only [List.cons.injEq, true_and] at h
  have harguments := congrArg arguments (List.append_cancel_right h)
  rwa [arguments_intercalate (fun a ha => (hx a ha).selfContained) (fun a ha => (hx a ha).ne_nil)
      fun a ha => (hx a ha).withoutBlanks_eq,
    arguments_intercalate (fun a ha => (hy a ha).selfContained) (fun a ha => (hy a ha).ne_nil)
      fun a ha => (hy a ha).withoutBlanks_eq] at harguments

theorem separable_of_cons {c : Char} {cs : List Char} (hc : c ≠ ' ')
    (h : SelfContained (c :: cs)) : Separable (c :: cs) :=
  ⟨h, List.cons_ne_nil c cs, by simp [withoutBlanks, hc]⟩

theorem separable_of_plain {v : Value} {text : List Char} (hv : Plain v) (h : Writes v text) :
    Separable text := by
  have hreadable := readable_chars h
  obtain ⟨c, cs, rfl, hc, _⟩ := exists_cons_of_plain hv h
  exact separable_of_cons hc hreadable.selfContained

theorem separable_entry {e : String × Value} {text : List Char} (h : WritesEntry e text) :
    Separable text := by
  obtain ⟨a, ha, rfl⟩ := h
  exact separable_of_cons (by decide) (readable_named e.1 (readable_chars ha)).selfContained

theorem forall_of_forall₂ {α β : Type} {R : α → β → Prop} {P : β → Prop} {xs : List α} {ys : List β}
    (h : List.Forall₂ R xs ys) (hP : ∀ x ∈ xs, ∀ y, R x y → P y) : ∀ y ∈ ys, P y := by
  induction h with
  | nil => simp
  | cons hr _ ih =>
    obtain ⟨hx, hxs⟩ := List.forall_mem_cons.mp hP
    exact List.forall_mem_cons.mpr ⟨hx _ hr, ih hxs⟩

theorem map_eq_of_forall₂ {α β γ δ : Type} {R : α → γ → Prop} {S : β → γ → Prop} {f : α → δ}
    {g : β → δ} {xs : List α} {ys : List β} {args : List γ} (hx : List.Forall₂ R xs args)
    (hy : List.Forall₂ S ys args)
    (h : ∀ x ∈ xs, ∀ y ∈ ys, ∀ a, R x a → S y a → f x = g y) : xs.map f = ys.map g := by
  induction hx generalizing ys with
  | nil =>
    cases hy
    rfl
  | cons hr _ ih =>
    cases hy with
    | cons hs hys =>
      rw [List.map_cons, List.map_cons, h _ List.mem_cons_self _ List.mem_cons_self _ hr hs,
        ih hys fun x hx y hy => h x (List.mem_cons_of_mem _ hx) y (List.mem_cons_of_mem _ hy)]

theorem not_writes_entry {v : Value} {e : String × Value} {text : List Char} (hv : Plain v)
    (h : Writes v text) : ¬ WritesEntry e text := by
  rintro ⟨a, _, rfl⟩
  obtain ⟨c, cs, hcons, _, hkind⟩ := exists_cons_of_plain hv h
  obtain ⟨rfl, _⟩ := List.cons.inj hcons
  cases hv with
  | text s =>
    have hstring : string s ++ [] = string e.1 ++ (" = ".toList ++ a) := by
      rw [List.append_nil, ← List.append_assoc]
      exact Except.ok.inj h
    cases (string_append_inj hstring).2
  | _ => cases hkind

/-- What has the literal of the value is the same value, once both are unified. -/
def Determined (v : Value) : Prop :=
  ∀ w text, Plain w → Writes v text → Writes w text → v.unified = w.unified

theorem kind_eq {v w : Value} {text : List Char} (hv : Plain v) (hw : Plain w)
    (h : Writes v text) (h' : Writes w text) : kind v = kind w := by
  obtain ⟨c, cs, hcons, _, hkind⟩ := exists_cons_of_plain hv h
  obtain ⟨c', cs', hcons', _, hkind'⟩ := exists_cons_of_plain hw h'
  obtain ⟨rfl, _⟩ := List.cons.inj (hcons.symm.trans hcons')
  rw [← hkind, ← hkind']

theorem unified_word {v w : Value} {text : List Char} (hv : Plain v) (hw : Plain w)
    (hkind : kind v = .word) (hkind' : kind w = .word) (h : Writes v text) (h' : Writes w text) :
    v.unified = w.unified := by
  have heq : chars? v = chars? w := h.trans h'.symm
  cases hv with
  | null =>
    cases hw with
    | null => rfl
    | boolean b => cases b <;> exact absurd (Except.ok.inj heq) (by decide)
    | _ => cases hkind'
  | boolean b =>
    cases hw with
    | null => cases b <;> exact absurd (Except.ok.inj heq) (by decide)
    | boolean c =>
      cases b <;> cases c <;> first | rfl | exact absurd (Except.ok.inj heq) (by decide)
    | _ => cases hkind'
  | _ => cases hkind

theorem unified_sequence {vs : List Value} {w : Value} {args : List (List Char)}
    (hvs : ∀ v ∈ vs, Plain v) (ih : ∀ v ∈ vs, Determined v) (hargs : List.Forall₂ Writes vs args)
    (hw : Called w (listCall args)) : Value.list (vs.map unified) = w.unified := by
  have hseparable : ∀ a ∈ args, Separable a :=
    forall_of_forall₂ hargs fun v hv a ha => separable_of_plain (hvs v hv) ha
  cases hw with
  | sequence hws hunified hargs' htext =>
    obtain rfl := listCall_inj hseparable
      (forall_of_forall₂ hargs' fun x hx a ha => separable_of_plain (hws x hx) ha) htext
    rw [hunified, map_eq_of_forall₂ hargs hargs' fun v hv x hx a ha ha' =>
      ih v hv x a (hws x hx) ha ha']
  | entries _ _ hargs' htext =>
    obtain rfl := listCall_inj hseparable
      (forall_of_forall₂ hargs' fun e _ a ha => separable_entry ha) htext
    cases hargs' with
    | cons hentry _ =>
      cases hargs with
      | cons hvalue _ => exact absurd hentry (not_writes_entry (hvs _ List.mem_cons_self) hvalue)

theorem unified_entries {e : String × Value} {es : List (String × Value)} {w : Value}
    {args : List (List Char)} (ih : ∀ x ∈ e :: es, Determined x.2)
    (hargs : List.Forall₂ WritesEntry (e :: es) args) (hw : Called w (listCall args)) :
    Value.dict (keyed (unifiedFields (e :: es))) = w.unified := by
  have hseparable : ∀ a ∈ args, Separable a :=
    forall_of_forall₂ hargs fun _ _ a ha => separable_entry ha
  cases hw with
  | sequence hws _ hargs' htext =>
    obtain rfl := listCall_inj hseparable
      (forall_of_forall₂ hargs' fun x hx a ha => separable_of_plain (hws x hx) ha) htext
    cases hargs with
    | cons hentry _ =>
      cases hargs' with
      | cons hvalue _ => exact absurd hentry (not_writes_entry (hws _ List.mem_cons_self) hvalue)
  | entries hes hunified hargs' htext =>
    obtain rfl := listCall_inj hseparable
      (forall_of_forall₂ hargs' fun _ _ a ha => separable_entry ha) htext
    rw [hunified]
    refine congrArg (fun es => Value.dict (keyed es)) (map_eq_of_forall₂ hargs hargs' ?_)
    rintro x hx y hy _ ⟨a, ha, rfl⟩ ⟨b, hb, htext⟩
    rw [List.append_assoc, List.append_assoc] at htext
    obtain ⟨hname, hvalue⟩ := string_append_inj htext
    obtain rfl := List.append_cancel_left hvalue
    rw [hname, ih x hx y.2 a (hes y hy) ha hb]

/-- By induction on one of the two values. -/
theorem determined_of_plain {v : Value} (hv : Plain v) : Determined v := by
  induction hv with
  | null =>
    intro w text hw h h'
    have hkind := kind_eq .null hw h h'
    exact unified_word .null hw rfl hkind.symm h h'
  | boolean b =>
    intro w text hw h h'
    have hkind := kind_eq (.boolean b) hw h h'
    exact unified_word (.boolean b) hw rfl hkind.symm h h'
  | integer m =>
    intro w text hw h h'
    have hkind := kind_eq (.integer m) hw h h'
    cases hw with
    | integer n => rw [integer_inj h h']
    | _ => cases hkind
  | text s =>
    intro w text hw h h'
    have hkind := kind_eq (.text s) hw h h'
    cases hw with
    | text t => rw [string_inj (Except.ok.inj (h.trans h'.symm))]
    | _ => cases hkind
  | list hvs ih =>
    intro w text hw h h'
    have hkind := kind_eq (.list hvs) hw h h'
    rw [Writes, chars?_list] at h
    obtain ⟨args, hargs, rfl⟩ := exists_of_map_ok h
    rw [unified, unifiedAll_eq]
    exact unified_sequence hvs ih (forall₂_args hargs) (called_of_plain hw hkind.symm h')
  | tuple hvs ih =>
    intro w text hw h h'
    have hkind := kind_eq (.tuple hvs) hw h h'
    rw [Writes, chars?_tuple] at h
    obtain ⟨args, hargs, rfl⟩ := exists_of_map_ok h
    rw [unified, unifiedAll_eq]
    exact unified_sequence hvs ih (forall₂_args hargs) (called_of_plain hw hkind.symm h')
  | @dict es hes ih =>
    intro w text hw h h'
    have hkind := kind_eq (.dict hes) hw h h'
    have hw' := called_of_plain hw hkind.symm h'
    rw [Writes, chars?_dict] at h
    obtain ⟨args, hargs, rfl⟩ := exists_of_map_ok h
    have hforall := forall₂_namedArgs hargs
    cases es with
    | nil =>
      cases hforall
      rw [unified_keyed_nil]
      exact unified_sequence (by simp) (by simp) .nil hw'
    | cons e es =>
      rw [unified_keyed_cons]
      exact unified_entries ih hforall hw'

theorem writes_of_literal? {v : Value} {t : String} (h : v.literal? = .ok t) :
    Writes v t.toList := by
  rw [Value.literal?] at h
  split at h
  · cases h
  · next text htext =>
    cases h
    rwa [String.toList_ofList]

end Literal

namespace Value

theorem Plain.part {u v : Value} (hpart : Part u v) (hv : Plain v) : Plain u := by
  induction hpart with
  | self => exact hv
  | list hmem _ ih =>
    cases hv with
    | list hvs => exact ih (hvs _ hmem)
  | tuple hmem _ ih =>
    cases hv with
    | tuple hvs => exact ih (hvs _ hmem)
  | dict hmem _ ih =>
    cases hv with
    | dict hes =>
      obtain ⟨e, he, heq⟩ := List.mem_map.mp hmem
      obtain ⟨-, rfl⟩ := Prod.mk.inj heq
      exact ih (hes e he)

theorem Plain.hasDefect {v : Value} {e : Unwritable} (hv : Plain v) (h : HasDefect v e) :
    e = .tooLong ∧ ∃ n : Int, v = .integer n ∧ Text.isOverlong n = true := by
  cases h with
  | type name => cases hv
  | key hmem hnontext =>
    cases hv with
    | dict hes =>
      obtain ⟨e, -, heq⟩ := List.mem_map.mp hmem
      obtain ⟨rfl, -⟩ := Prod.mk.inj heq
      cases hnontext
  | number hoverlong => exact ⟨rfl, _, rfl, hoverlong⟩

theorem exists_literal?_of_plain {v : Value} (hv : Plain v) :
    (∃ t, v.literal? = .ok t) ↔
      ∀ n : Int, Part (.integer n) v → (Nat.toDigits 10 n.natAbs).length ≤ 4300 := by
  rw [exists_literal?_eq_ok_iff]
  constructor
  · intro hnone n hpart
    rw [← Nat.not_lt]
    intro hlong
    exact hnone _ _ hpart (.number (decide_eq_true hlong))
  · intro hshort u e hpart hdefect
    obtain ⟨-, n, rfl, hlong⟩ := (hv.part hpart).hasDefect hdefect
    exact absurd (hshort n hpart) (Nat.not_le.mpr (of_decide_eq_true hlong))

end Value

open Literal in
/-- A plain value has a literal unless a number in it has more than 4300 digits, and then the
literal fails for that reason. Two of them that have literals have the same one only if they are the
same value up to the difference between lists and tuples. The suffix of a whole number tells whether
it is an integer in R, and every literal can stand among others. -/
theorem literal_determines_value (v w : Value) :
    (v.Plain → ((∃ t, v.literal? = .ok t) ↔
        ∀ n : Int, Value.Part (.integer n) v → (Nat.toDigits 10 n.natAbs).length ≤ 4300) ∧
      ∀ e, v.literal? = .error e → e = .tooLong) ∧
    (∀ t u : String, v.Plain → w.Plain → v.literal? = .ok t → w.literal? = .ok u →
      (t = u ↔ v.unified = w.unified)) ∧
    (∀ (n : Int) (t : String), (Value.integer n).literal? = .ok t →
      (t.toList.getLast? = some 'L' ↔ n.natAbs ≤ 2147483647)) ∧
    ∀ t : String, v.literal? = .ok t →
      (∀ c ∈ t.toList, IsShown c) ∧ (Place.code 0).after? t.toList = some (.code 0) := by
  refine ⟨fun hv => ⟨Value.exists_literal?_of_plain hv, fun e he => ?_⟩, ?_, ?_, ?_⟩
  · obtain ⟨u, hpart, hdefect⟩ := Value.hasDefect_of_literal? he
    exact ((hv.part hpart).hasDefect hdefect).1
  · intro t u hv hw ht hu
    have htext := writes_of_literal? ht
    have htext' := writes_of_literal? hu
    rw [← String.toList_inj]
    constructor
    · intro heq
      rw [← heq] at htext'
      exact determined_of_plain hv w _ hw htext htext'
    · intro hunified
      have heq : chars? v = chars? w := by rw [← chars?_unified v, hunified, chars?_unified]
      exact Except.ok.inj (htext.symm.trans (heq.trans htext'))
  · intro n t ht
    exact getLast?_integer (writes_of_literal? ht)
  · intro t ht
    have hlegible := legible_of_isArgument (isArgument_chars (writes_of_literal? ht))
    exact ⟨hlegible.shown, hlegible.nested 0⟩

def listedValue : Value :=
  .list [.text "\"😀", .tuple [.boolean true, .integer 2147483648], .dict []]

def tupledValue : Value :=
  .tuple [.text "\"😀", .list [.boolean true, .integer 2147483648], .list []]

theorem literal_determines_value_emoji :
    (listedValue.Plain ∧ tupledValue.Plain ∧
      listedValue.literal? = .ok "list(\"\\\"\\ud83d\\ude00\", list(TRUE, 2147483648), list())" ∧
      tupledValue.literal? = listedValue.literal?) ∧
    (∀ n : Int, Value.Part (.integer n) listedValue → (Nat.toDigits 10 n.natAbs).length ≤ 4300) ∧
    listedValue.unified = tupledValue.unified ∧
    (Value.integer 1).literal? = .ok "1L" ∧ "1L".toList.getLast? = some 'L' := by
  have htext : listedValue.literal? =
      .ok "list(\"\\\"\\ud83d\\ude00\", list(TRUE, 2147483648), list())" := by
    rfl
  have htext' : tupledValue.literal? =
      .ok "list(\"\\\"\\ud83d\\ude00\", list(TRUE, 2147483648), list())" := by
    rfl
  have hone : (Value.integer 1).literal? = .ok "1L" := rfl
  have hnumbers : ∀ v ∈ [Value.boolean true, .integer 2147483648], v.Plain := by
    simp [Value.Plain.boolean, Value.Plain.integer]
  have hlisted : listedValue.Plain := by
    refine .list ?_
    simp only [List.forall_mem_cons]
    exact ⟨.text _, .tuple hnumbers, @Value.Plain.dict [] (by simp), by simp⟩
  have htupled : tupledValue.Plain := by
    refine .tuple ?_
    simp only [List.forall_mem_cons]
    exact ⟨.text _, .list hnumbers, .list (by simp), by simp⟩
  obtain ⟨hexists, hsame, hsuffix, -⟩ := literal_determines_value listedValue tupledValue
  refine ⟨⟨hlisted, htupled, htext, htext'.trans htext.symm⟩, ?_, ?_, hone, ?_⟩
  · exact (hexists hlisted).1.mp ⟨_, htext⟩
  · exact (hsame _ _ hlisted htupled htext htext').mp rfl
  · exact (hsuffix 1 _ hone).mpr (by decide)

open Value (power) in
/-- Numbers with too many digits have no literal, and what they have in its place is the same. -/
theorem power_without_literal :
    (Value.integer power).Plain ∧ (Value.integer (power + 1)).Plain ∧
      (Value.integer power).unified ≠ (Value.integer (power + 1)).unified ∧
      (Value.integer power).literal? = .error .tooLong ∧
      (Value.integer (power + 1)).literal? = .error .tooLong ∧
      Unwritable.tooLong.message =
        "Exceeds the limit (4300 digits) for integer string conversion" ++
          "; use sys.set_int_max_str_digits() to increase the limit" := by
  have hdiffer : power ≠ power + 1 := by omega
  have hlong : ∀ p : Nat, p ≤ ((p : Int) + 1).natAbs := by omega
  exact ⟨.integer _, .integer _, fun heq => hdiffer (Value.integer.inj heq),
    Value.literal?_power, Value.literal?_of_le (hlong _), by decide⟩

end RBinding

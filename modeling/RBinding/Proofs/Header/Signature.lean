import Mathlib.Data.List.Forall2
import RBinding.Assembly
import RBinding.Proofs.Header.Literals
import RBinding.Proofs.Symbol
import RBinding.World.Signature

/-!
# RBinding.Proofs.Header.Signature

The header of a wrapper tells its signature. A reader of R source finds in it one argument for each
parameter, with its default as it was written (`arguments_formals`), whatever the default holds. An
argument in turn tells the name and the default of its parameter, for there is no blank in the name
as it is written, and a blank after it where there is a default (`sameDeclaration_of_formal_eq`).
-/

namespace RBinding

open Source

/-- The characters that names of Python parameters are made of. Which of those beyond ASCII may
stand where plays no part here. -/
def isWordChar (c : Char) : Bool :=
  c.isAlphanum || c == '_' || 128 ≤ c.toNat

/-- The name of a parameter, or the one that stands for all variadic ones. -/
def IsParameterName (name : String) : Prop :=
  name = variadicName ∨ name.toList.all isWordChar = true

/-- A parameter as descriptions give it. -/
structure IsDeclared (p : Parameter) : Prop where
  name : IsParameterName p.name
  literal : p.hasDefault = true → ∃ v, p.defaultLiteral = some (World.defaultLiteral v).1
  no_literal : p.hasDefault = false → p.defaultLiteral = none

/-- The parameters agree in all that a header shows. -/
structure SameDeclaration (p q : Parameter) : Prop where
  name : p.name = q.name
  hasDefault : p.hasDefault = q.hasDefault
  defaultLiteral : p.defaultLiteral = q.defaultLiteral

namespace World

theorem isDeclared_declare {p : Formal} (h : p.name.toList.all isWordChar = true) :
    IsDeclared (declare p) := by
  unfold declare
  split
  · exact ⟨.inr h, by simp, by simp⟩
  · next v _ => exact ⟨.inr h, fun _ => ⟨v, rfl⟩, by simp⟩

theorem isDeclared_declared {formals : List Formal}
    (h : ∀ p ∈ formals, p.name.toList.all isWordChar = true) :
    ∀ p ∈ declared formals, IsDeclared p := by
  intro p hp
  simp only [declared, List.mem_append, List.mem_map] at hp
  rcases hp with (⟨f, hf, rfl⟩ | hp) | ⟨f, hf, rfl⟩
  · exact isDeclared_declare (h f (List.takeWhile_subset _ hf))
  · unfold declareVariadic at hp
    split at hp
    · cases hp
    · rw [List.mem_singleton.mp hp]
      exact ⟨.inl rfl, by simp, by simp⟩
  · exact isDeclared_declare (h f (List.dropWhile_subset _ (List.mem_of_mem_filter hf)))

theorem readable_defaultLiteral (v : Value) : Readable (defaultLiteral v).1.toList := by
  cases h : Literal.chars? v with
  | error e =>
    simp only [defaultLiteral, Value.literal?, h]
    exact Literal.readable_alphanum (by decide)
  | ok text =>
    simpa [defaultLiteral, Value.literal?, h] using Literal.readable_chars h

end World

def isWordCharOrDot (c : Char) : Bool :=
  isWordChar c || c == '.'

namespace IsParameterName

variable {name : String}

theorem isWordCharOrDot (h : IsParameterName name) :
    name.toList.all isWordCharOrDot = true := by
  rcases h with rfl | h
  · rfl
  · rw [List.all_eq_true] at h ⊢
    intro c hc
    simp [RBinding.isWordCharOrDot, h c hc]

theorem not_mem (h : IsParameterName name) {x : Char} (hx : RBinding.isWordCharOrDot x = false) :
    x ∉ name.toList := by
  intro hmem
  cases hx.symm.trans (List.all_eq_true.mp h.isWordCharOrDot x hmem)

theorem blank_not_mem_symbol (h : IsParameterName name) : ' ' ∉ (symbol name).toList :=
  not_mem_symbol (by decide) (h.not_mem (by decide))

theorem readable_symbol (h : IsParameterName name) : Readable (symbol name).toList := by
  rcases symbol_eq_or name with hs | hs <;> rw [hs]
  · exact readable_of_class (by decide) h.isWordCharOrDot
  · refine ⟨SelfContained.quoted rfl (after?_quoted fun c hc => ⟨?_, ?_⟩), ?_⟩
    · rintro rfl
      exact h.not_mem (by decide) hc
    · rintro rfl
      exact h.not_mem (by decide) hc
    · simpa using h.not_mem (by decide)

end IsParameterName

namespace Assembly

def defaultSuffix (p : Parameter) : List Char :=
  if p.hasDefault then " = ".toList ++ p.defaultText.toList else []

theorem toList_formal (p : Parameter) :
    (formal p).toList = (symbol p.name).toList ++ defaultSuffix p := by
  unfold formal defaultSuffix
  split <;> simp

theorem readable_defaultSuffix {p : Parameter} (h : IsDeclared p) : Readable (defaultSuffix p) := by
  unfold defaultSuffix
  split
  · next hdefault =>
    obtain ⟨v, hv⟩ := h.literal hdefault
    rw [Parameter.defaultText, hv]
    exact Literal.readable_equals.append (World.readable_defaultLiteral v)
  · exact readable_of_class (p := fun _ => false) rfl rfl

theorem readable_formal {p : Parameter} (h : IsDeclared p) : Readable (formal p).toList := by
  rw [toList_formal]
  exact h.name.readable_symbol.append (readable_defaultSuffix h)

theorem formal_ne_nil (p : Parameter) : (formal p).toList ≠ [] := by
  simp [toList_formal, symbol_ne_empty]

theorem withoutBlanks_formal {p : Parameter} (h : IsDeclared p) :
    withoutBlanks (formal p).toList = (formal p).toList := by
  rw [toList_formal, withoutBlanks]
  cases hsymbol : (symbol p.name).toList with
  | nil => simp [symbol_ne_empty] at hsymbol
  | cons c cs =>
    have hc : c ≠ ' ' := by
      rintro rfl
      exact h.name.blank_not_mem_symbol (hsymbol ▸ List.mem_cons_self)
    simp [hc]

theorem span_formal {p : Parameter} (h : IsDeclared p) :
    (formal p).toList.takeWhile (· != ' ') = (symbol p.name).toList ∧
      (formal p).toList.dropWhile (· != ' ') = defaultSuffix p := by
  have hsymbol : ∀ c ∈ (symbol p.name).toList, (c != ' ') = true := by
    intro c hc
    rw [bne_iff_ne]
    rintro rfl
    exact h.name.blank_not_mem_symbol hc
  have hsuffix : (defaultSuffix p).takeWhile (· != ' ') = [] ∧
      (defaultSuffix p).dropWhile (· != ' ') = defaultSuffix p := by
    unfold defaultSuffix
    split <;> simp
  rw [toList_formal, List.takeWhile_append_of_pos hsymbol, List.dropWhile_append_of_pos hsymbol]
  simp [hsuffix]

theorem defaultSuffix_injective {p q : Parameter} (hp : IsDeclared p) (hq : IsDeclared q)
    (h : defaultSuffix p = defaultSuffix q) :
    p.hasDefault = q.hasDefault ∧ p.defaultLiteral = q.defaultLiteral := by
  cases hdefault : p.hasDefault <;> cases hdefault' : q.hasDefault
  · simp [hp.no_literal hdefault, hq.no_literal hdefault']
  · simp [defaultSuffix, hdefault, hdefault'] at h
  · simp [defaultSuffix, hdefault, hdefault'] at h
  · obtain ⟨v, hv⟩ := hp.literal hdefault
    obtain ⟨v', hv'⟩ := hq.literal hdefault'
    simpa [defaultSuffix, hdefault, hdefault', Parameter.defaultText, hv, hv', String.toList_inj]
      using h

theorem sameDeclaration_of_formal_eq {p q : Parameter} (hp : IsDeclared p) (hq : IsDeclared q)
    (h : formal p = formal q) : SameDeclaration p q := by
  obtain ⟨hname, hsuffix⟩ := span_formal hp
  obtain ⟨hname', hsuffix'⟩ := span_formal hq
  rw [h, hname', String.toList_inj] at hname
  rw [h, hsuffix'] at hsuffix
  obtain ⟨hdefault, hliteral⟩ := defaultSuffix_injective hq hp hsuffix
  exact ⟨symbol_injective hname.symm, hdefault.symm, hliteral.symm⟩

theorem formal_eq {p q : Parameter} (h : SameDeclaration p q) :
    formal p = formal q := by
  simp [formal, Parameter.defaultText, h.name, h.hasDefault, h.defaultLiteral]

/-- The text between the brackets of a header. -/
def formals (parameters : List Parameter) : String :=
  ", ".intercalate (parameters.map formal)

theorem toList_formals (parameters : List Parameter) :
    (formals parameters).toList =
      [',', ' '].intercalate (parameters.map fun p => (formal p).toList) := by
  rw [formals, String.toList_intercalate, List.map_map]
  rfl

/-- A reader finds one argument for each parameter, as it was written. -/
theorem arguments_formals {parameters : List Parameter} (h : ∀ p ∈ parameters, IsDeclared p) :
    arguments (formals parameters).toList = parameters.map fun p => (formal p).toList := by
  rw [toList_formals]
  apply arguments_intercalate <;> simp only [List.forall_mem_map]
  · exact fun p hp => (readable_formal (h p hp)).selfContained
  · exact fun p _ => formal_ne_nil p
  · exact fun p hp => withoutBlanks_formal (h p hp)

theorem newline_not_mem_formals {parameters : List Parameter} (h : ∀ p ∈ parameters, IsDeclared p) :
    '\n' ∉ (formals parameters).toList := by
  rw [toList_formals]
  apply Text.not_mem_intercalate (by decide)
  simp only [List.forall_mem_map]
  exact fun p hp => (readable_formal (h p hp)).newline_not_mem

theorem header_eq (name : String) (parameters : List Parameter) :
    header name parameters = symbol name ++ " <- function(" ++ formals parameters ++ ") \x7b" :=
  rfl

theorem sameDeclarations_of_map_formal_eq {ps qs : List Parameter} (hp : ∀ p ∈ ps, IsDeclared p)
    (hq : ∀ q ∈ qs, IsDeclared q)
    (h : ps.map (fun p => (formal p).toList) = qs.map fun p => (formal p).toList) :
    List.Forall₂ SameDeclaration ps qs := by
  induction ps generalizing qs with
  | nil =>
    cases qs with
    | nil => exact .nil
    | cons q qs => cases h
  | cons p ps ih =>
    cases qs with
    | nil => cases h
    | cons q qs =>
      obtain ⟨hp, hps⟩ := List.forall_mem_cons.mp hp
      obtain ⟨hq, hqs⟩ := List.forall_mem_cons.mp hq
      simp only [List.map_cons, List.cons.injEq, String.toList_inj] at h
      exact .cons (sameDeclaration_of_formal_eq hp hq h.1) (ih hps hqs h.2)

theorem map_formal_eq {ps qs : List Parameter} (h : List.Forall₂ SameDeclaration ps qs) :
    ps.map formal = qs.map formal := by
  induction h with
  | nil => rfl
  | cons hpq _ ih => rw [List.map_cons, List.map_cons, formal_eq hpq, ih]

/-- Headers with the same name are equal exactly if they declare the same parameters in the same
places. A reader finds one argument for each parameter between the brackets of a header, so no
default can be taken for another argument; and a header is a single line if its name is. -/
theorem header_determines_parameters (name : String) {ps qs : List Parameter}
    (hp : ∀ p ∈ ps, IsDeclared p) (hq : ∀ q ∈ qs, IsDeclared q) :
    (header name ps = header name qs ↔ List.Forall₂ SameDeclaration ps qs) ∧
      (∃ text, header name ps = symbol name ++ " <- function(" ++ text ++ ") \x7b" ∧
        arguments text.toList = ps.map fun p => (formal p).toList) ∧
      ('\n' ∉ name.toList → '\n' ∉ (header name ps).toList) := by
  refine ⟨⟨fun h => ?_, fun h => ?_⟩, ⟨formals ps, rfl, arguments_formals hp⟩, fun h => ?_⟩
  · have hformals : formals ps = formals qs := by
      simpa [header_eq, ← String.toList_inj] using h
    apply sameDeclarations_of_map_formal_eq hp hq
    rw [← arguments_formals hp, ← arguments_formals hq, hformals]
  · rw [header, header, map_formal_eq h]
  · simp [header_eq, not_mem_symbol (show '\n' ≠ '`' by decide) h, newline_not_mem_formals hp]

/-- One parameter, whose default holds the text of a second one. -/
def lookalike : List World.Formal :=
  [{ name := "next", default := some (.dict [(.text "a, b = (", .list
      [.text "1\", y = \"2", .text "\n\\) \x7b", .real .nan]), (.text "`", .tuple [])]) }]

def plain : List World.Formal :=
  [{ name := "next", default := some (.list [.text "1"]) },
    { name := "y", default := some (.list [.text "2"]) }]

theorem header_determines_parameters_lookalike :
    header "f" (World.declared lookalike) ≠ header "f" (World.declared plain) ∧
      (∃ text, header "f" (World.declared lookalike) = "f <- function(" ++ text ++ ") \x7b" ∧
        (arguments text.toList).length = 1) ∧
      '\n' ∉ (header "f" (World.declared lookalike)).toList := by
  have hp : ∀ p ∈ World.declared lookalike, IsDeclared p := World.isDeclared_declared (by decide)
  have hq : ∀ q ∈ World.declared plain, IsDeclared q := World.isDeclared_declared (by decide)
  obtain ⟨hiff, ⟨text, htext, harguments⟩, hline⟩ := header_determines_parameters "f" hp hq
  refine ⟨fun h => ?_, ⟨text, htext, ?_⟩, hline (by decide)⟩
  · have hlength := (hiff.mp h).length_eq
    revert hlength
    decide
  · rw [harguments, List.length_map]
    decide

end Assembly

end RBinding

import RBinding.Proofs.Header.Reading
import RBinding.Proofs.Literal.Grammar
import RBinding.Proofs.Literal.Strings
import RBinding.Proofs.Text.Margin

/-!
# RBinding.Proofs.Header.Literals

Literals are self-contained and stand on one line. Words and numbers hold no character that a
reader heeds. A string keeps the reader between its quotes, since quotes and backslashes in it are
escaped and line feeds are not written as such (`after?_isEscape`). Lists and dictionaries are
brackets around what is self-contained already (`readable_chars`).
-/

namespace RBinding

namespace Literal

open Source

theorem readable_alphanum {text : List Char} (h : text.all Char.isAlphanum = true) :
    Readable text :=
  readable_of_class (by decide) h

theorem readable_word {text : List Char} (h : text.all isWordChar = true) : Readable text :=
  readable_of_class (by decide) h

theorem after?_unitEscape (n depth : Nat) :
    (Position.quoted '"' depth).after? (unitEscape n) = some (.quoted '"' depth) := by
  have h := List.all_eq_true.mp (Text.isAlphanum_hexDigits 4 n)
  show (Position.quoted '"' depth).after? (Text.hexDigits 4 n) = _
  refine after?_quoted (fun c hc => ?_) depth
  constructor <;> rintro rfl <;> cases h _ hc

/-- Between quotes, a character as it is written in a string is passed over. -/
theorem after?_isEscape {c : Char} {text : List Char} (h : IsEscape c text) (depth : Nat) :
    (Position.quoted '"' depth).after? text = some (.quoted '"' depth) := by
  cases h with
  | plain _ hquote hescape => exact after?_quoted (by simp [hquote, hescape]) depth
  | short => simp [Position.after?, Position.endsBefore, Position.next]
  | unit n => exact after?_unitEscape n depth
  | pair m n => rw [after?_append_of_eq (after?_unitEscape m depth), after?_unitEscape]

theorem readable_string (s : String) : Readable (string s) where
  selfContained := by
    refine SelfContained.quoted rfl fun depth => ?_
    induction s.toList with
    | nil => rfl
    | cons c cs ih =>
      rw [List.flatMap_cons,
        after?_append_of_eq (after?_isEscape (isEscape_escapedChar c) depth), ih]
  newline_not_mem := by
    intro hmem
    exact absurd (isShown_string s '\n' hmem) (by decide)

theorem readable_listCall {args : List (List Char)} (h : ∀ a ∈ args, Readable a) :
    Readable (listCall args) where
  selfContained := by
    have hname : SelfContained "list".toList :=
      (readable_alphanum (by decide)).selfContained
    exact hname.append (SelfContained.bracketed fun a ha => (h a ha).selfContained)
  newline_not_mem := by
    have hargs : '\n' ∉ [',', ' '].intercalate args :=
      Text.not_mem_intercalate (by decide) fun a ha => (h a ha).newline_not_mem
    simp [listCall_eq, hargs]

theorem readable_equals : Readable " = ".toList :=
  readable_of_class (p := fun c => c == ' ' || c == '=') (by decide) (by decide)

theorem readable_named (name : String) {arg : List Char} (h : Readable arg) :
    Readable (string name ++ " = ".toList ++ arg) :=
  ((readable_string name).append readable_equals).append h

theorem readable_of_isArgument {text : List Char} (h : IsArgument text) : Readable text := by
  induction h with
  | word hword => exact readable_word hword
  | string s => exact readable_string s
  | named name _ ih => exact readable_named name ih
  | call _ ih => exact readable_listCall ih

/-- Every literal can stand among arguments on one line. -/
theorem readable_chars {v : Value} {text : List Char} (h : chars? v = .ok text) :
    Readable text :=
  readable_of_isArgument (isArgument_chars h)

end Literal

end RBinding

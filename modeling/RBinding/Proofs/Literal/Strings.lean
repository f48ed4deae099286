import Mathlib.Tactic.SplitIfs
import RBinding.Literal

/-!
# RBinding.Proofs.Literal.Strings

Strings read back. One character is read off the text that it is written as, whatever follows
(`readChar?_escapedChar`): a short escape, a unit of four hexadecimal digits, two such units for a
character beyond U+FFFF, or the character itself. All of these show in ASCII (`isShown_string`). No
string is written as the start of the text of another one, and where a string ends is told by the
text itself (`string_append_inj`).
-/

namespace RBinding

namespace Text

theorem isAlphanum_hexDigit : ∀ n < 16, (hexDigit n).isAlphanum = true := by
  decide

theorem isAlphanum_hexDigits (width n : Nat) :
    (hexDigits width n).all Char.isAlphanum = true := by
  induction width generalizing n with
  | zero => rfl
  | succ width ih => simp [hexDigits, ih, isAlphanum_hexDigit _ (Nat.mod_lt n (by omega))]

end Text

namespace Literal

def hexDigitValue (c : Char) : Nat :=
  if c.isDigit then c.toNat - 48 else c.toNat - 87

def hexValue (cs : List Char) : Nat :=
  cs.foldl (fun n c => 16 * n + hexDigitValue c) 0

theorem hexDigitValue_hexDigit : ∀ n < 16, hexDigitValue (Text.hexDigit n) = n := by
  decide

theorem hexValue_hexDigits (width n : Nat) :
    hexValue (Text.hexDigits width n) = n % Nat.pow 16 width := by
  induction width generalizing n with
  | zero => simp [Text.hexDigits, hexValue, Nat.mod_one]
  | succ width ih =>
    have hdigit := hexDigitValue_hexDigit (n % 16) (Nat.mod_lt n (by omega))
    have hvalue : hexValue (Text.hexDigits (width + 1) n) =
        16 * hexValue (Text.hexDigits width (n / 16)) + hexDigitValue (Text.hexDigit (n % 16)) := by
      simp [Text.hexDigits, hexValue]
    have hpow : Nat.pow 16 (width + 1) = 16 * Nat.pow 16 width := Nat.mul_comm _ _
    rw [hvalue, ih, hdigit, hpow, Nat.mod_mul]
    omega

/-- Reads four hexadecimal digits after `\u`. -/
def readUnit? : List Char → Option (Nat × List Char)
  | '\\' :: 'u' :: cs => some (hexValue (cs.take 4), cs.drop 4)
  | _ => none

/-- The character of a short escape. -/
def shortEscape (c : Char) : Char :=
  if c = 'n' then '\n'
  else if c = 'r' then '\r'
  else if c = 't' then '\t'
  else if c = 'b' then '\x08'
  else if c = 'f' then '\x0c'
  else c

/-- Reads a character that is written as itself or with a short escape. -/
def readShort? : List Char → Option (Char × List Char)
  | '\\' :: c :: rest => some (shortEscape c, rest)
  | c :: rest => some (c, rest)
  | [] => none

/-- Reads one character of a string. After the first unit of a pair comes the second. -/
def readChar? (cs : List Char) : Option (Char × List Char) :=
  match readUnit? cs with
  | none => readShort? cs
  | some (n, rest) =>
    if n < 0xd800 || 0xdc00 ≤ n then some (Char.ofNat n, rest)
    else
      match readUnit? rest with
      | none => none
      | some (m, rest) =>
        some (Char.ofNat (0x10000 + (n - 0xd800) * 0x400 + (m - 0xdc00)), rest)

theorem readUnit?_unitEscape {n : Nat} (h : n < 0x10000) (rest : List Char) :
    readUnit? (unitEscape n ++ rest) = some (n, rest) := by
  have hlength : (Text.hexDigits 4 n).length = 4 := Text.hexDigits_length 4 n
  simp only [unitEscape, List.cons_append, readUnit?, Option.some.injEq, Prod.mk.injEq]
  constructor
  · rw [List.take_append_of_le_length (by omega), List.take_of_length_le (by omega)]
    exact (hexValue_hexDigits 4 n).trans (Nat.mod_eq_of_lt h)
  · rw [List.drop_append_of_le_length (by omega), List.drop_of_length_le (by omega),
      List.nil_append]

theorem readUnit?_of_ne {c : Char} (h : c ≠ 'u') (rest : List Char) :
    readUnit? ('\\' :: c :: rest) = none := by
  simp [readUnit?, h]

theorem readChar?_of_plain {c : Char} (h : c ≠ '\\') (rest : List Char) :
    readChar? (c :: rest) = some (c, rest) := by
  have hunit : readUnit? (c :: rest) = none := by simp [readUnit?, h]
  rw [readChar?, hunit]
  simp [readShort?, h]

theorem readChar?_of_short {c : Char} (h : c ≠ 'u') (rest : List Char) :
    readChar? ('\\' :: c :: rest) = some (shortEscape c, rest) := by
  rw [readChar?, readUnit?_of_ne h]
  rfl

theorem toNat_valid (c : Char) : c.toNat < 0xd800 ∨ 0xdfff < c.toNat ∧ c.toNat < 0x110000 :=
  c.valid

/-- A character is neither half of a pair. -/
theorem readChar?_unitEscape {c : Char} (h : c.toNat < 0x10000) (rest : List Char) :
    readChar? (unitEscape c.toNat ++ rest) = some (c, rest) := by
  have hsurrogate : c.toNat < 0xd800 ∨ 0xdc00 ≤ c.toNat := by
    have hvalid := toNat_valid c
    omega
  rw [readChar?, readUnit?_unitEscape h]
  simp [hsurrogate, Char.ofNat_toNat]

theorem readChar?_pair {c : Char} (h : 0x10000 ≤ c.toNat) (rest : List Char) :
    readChar? (unitEscape (0xd800 + (c.toNat - 0x10000) / 0x400) ++
      unitEscape (0xdc00 + (c.toNat - 0x10000) % 0x400) ++ rest) = some (c, rest) := by
  have hvalid := toNat_valid c
  have hfirst : (0xd800 + (c.toNat - 0x10000) / 0x400 < 0xd800 ||
      0xdc00 ≤ 0xd800 + (c.toNat - 0x10000) / 0x400) = false := by
    rw [Bool.or_eq_false_iff, decide_eq_false_iff_not, decide_eq_false_iff_not]
    omega
  have hsecond : 0xdc00 + (c.toNat - 0x10000) % 0x400 < 0x10000 := by omega
  have hvalue : 0x10000 + (0xd800 + (c.toNat - 0x10000) / 0x400 - 0xd800) * 0x400 +
      (0xdc00 + (c.toNat - 0x10000) % 0x400 - 0xdc00) = c.toNat := by omega
  rw [List.append_assoc, readChar?, readUnit?_unitEscape (by omega)]
  simp only [hfirst, Bool.false_eq_true, if_false, readUnit?_unitEscape hsecond, hvalue,
    Char.ofNat_toNat]

/-- A character is read off what it is written as, whatever comes after it. -/
theorem readChar?_escapedChar (c : Char) (rest : List Char) :
    readChar? (escapedChar c ++ rest) = some (c, rest) := by
  by_cases hmark : c = '"' ∨ c = '\\'
  · have hshort : escapedChar c = ['\\', c] := by simp [escapedChar, hmark]
    rw [hshort]
    rcases hmark with rfl | rfl <;> exact readChar?_of_short (by decide) rest
  · have hplain : c ≠ '\\' := fun h => hmark (.inr h)
    simp only [escapedChar, Bool.or_eq_true, decide_eq_true_eq, hmark, if_false]
    split_ifs with hnewline hreturn htab hback hfeed hprintable hunit
    · subst hnewline
      exact readChar?_of_short (by decide) rest
    · subst hreturn
      exact readChar?_of_short (by decide) rest
    · subst htab
      exact readChar?_of_short (by decide) rest
    · subst hback
      exact readChar?_of_short (by decide) rest
    · subst hfeed
      exact readChar?_of_short (by decide) rest
    · exact readChar?_of_plain hplain rest
    · exact readChar?_unitEscape hunit rest
    · exact readChar?_pair (by omega) rest

/-- The character is a space, or shows by itself in ASCII. -/
def IsShown (c : Char) : Prop :=
  32 ≤ c.toNat ∧ c.toNat ≤ 126

instance (c : Char) : Decidable (IsShown c) :=
  inferInstanceAs (Decidable (32 ≤ c.toNat ∧ c.toNat ≤ 126))

theorem isShown_hexDigit : ∀ n < 16, IsShown (Text.hexDigit n) := by
  decide

theorem isShown_hexDigits (width n : Nat) : ∀ c ∈ Text.hexDigits width n, IsShown c := by
  induction width generalizing n with
  | zero => simp [Text.hexDigits]
  | succ width ih =>
    intro c hc
    rcases List.mem_append.mp hc with hc | hc
    · exact ih (n / 16) c hc
    · rw [List.mem_singleton.mp hc]
      exact isShown_hexDigit _ (Nat.mod_lt n (by omega))

theorem isShown_unitEscape (n : Nat) : ∀ c ∈ unitEscape n, IsShown c := by
  intro c hc
  simp only [unitEscape, List.mem_cons] at hc
  rcases hc with rfl | rfl | hc
  · decide
  · decide
  · exact isShown_hexDigits 4 n c hc

/-- The forms in which a character may be written: as itself, with a backslash and one character, or
in units. -/
inductive IsEscape (c : Char) : List Char → Prop where
  | plain : IsShown c → c ≠ '"' → c ≠ '\\' → IsEscape c [c]
  | short {d : Char} : IsShown d → IsEscape c ['\\', d]
  | unit (n : Nat) : IsEscape c (unitEscape n)
  | pair (m n : Nat) : IsEscape c (unitEscape m ++ unitEscape n)

theorem isEscape_escapedChar (c : Char) : IsEscape c (escapedChar c) := by
  by_cases hmark : c = '"' ∨ c = '\\'
  · have hshort : escapedChar c = ['\\', c] := by simp [escapedChar, hmark]
    rw [hshort]
    rcases hmark with rfl | rfl <;> exact .short (by decide)
  · simp only [escapedChar, Bool.or_eq_true, decide_eq_true_eq, hmark, if_false]
    split_ifs with hnewline hreturn htab hback hfeed hshown hunit
    iterate 5 exact .short (by decide)
    · rw [not_or] at hmark
      exact .plain (by simpa [IsShown] using hshown) hmark.1 hmark.2
    · exact .unit _
    · exact .pair _ _

theorem IsEscape.isShown {c : Char} {text : List Char} (h : IsEscape c text) :
    ∀ d ∈ text, IsShown d := by
  cases h with
  | plain hc => simp [hc]
  | short hd => simpa [hd] using by decide
  | unit n => exact isShown_unitEscape n
  | pair m n =>
    intro d hd
    rcases List.mem_append.mp hd with hd | hd
    · exact isShown_unitEscape m d hd
    · exact isShown_unitEscape n d hd

theorem isShown_string (s : String) : ∀ c ∈ string s, IsShown c := by
  intro c hc
  simp only [string, List.mem_append, List.mem_cons, List.mem_flatMap, List.not_mem_nil,
    or_false] at hc
  rcases hc with (rfl | ⟨d, _, hc⟩) | rfl
  · decide
  · exact (isEscape_escapedChar d).isShown c hc
  · decide

theorem escapedChar_append_inj {c d : Char} {xs ys : List Char}
    (h : escapedChar c ++ xs = escapedChar d ++ ys) : c = d ∧ xs = ys := by
  have hread := readChar?_escapedChar c xs
  rw [h, readChar?_escapedChar d ys] at hread
  cases hread
  exact ⟨rfl, rfl⟩

theorem escapedChar_append_ne (c : Char) (xs ys : List Char) :
    escapedChar c ++ xs ≠ '"' :: ys := by
  intro h
  have hread := readChar?_escapedChar c xs
  rw [h, readChar?_of_plain (by decide)] at hread
  cases hread
  cases h

theorem flatMap_escapedChar_inj {cs ds xs ys : List Char}
    (h : cs.flatMap escapedChar ++ '"' :: xs = ds.flatMap escapedChar ++ '"' :: ys) :
    cs = ds ∧ xs = ys := by
  induction cs generalizing ds with
  | nil =>
    cases ds with
    | nil =>
      cases h
      exact ⟨rfl, rfl⟩
    | cons d ds =>
      rw [List.flatMap_cons, List.append_assoc] at h
      exact absurd h.symm (escapedChar_append_ne d _ _)
  | cons c cs ih =>
    cases ds with
    | nil =>
      rw [List.flatMap_cons, List.append_assoc] at h
      exact absurd h (escapedChar_append_ne c _ _)
    | cons d ds =>
      rw [List.flatMap_cons, List.flatMap_cons, List.append_assoc, List.append_assoc] at h
      obtain ⟨rfl, hrest⟩ := escapedChar_append_inj h
      obtain ⟨rfl, rfl⟩ := ih hrest
      exact ⟨rfl, rfl⟩

/-- Where a string ends and what it says can be told from the text that starts with it. -/
theorem string_append_inj {s t : String} {xs ys : List Char}
    (h : string s ++ xs = string t ++ ys) : s = t ∧ xs = ys := by
  simp only [string, List.cons_append, List.append_assoc, List.nil_append, List.cons.injEq,
    true_and] at h
  obtain ⟨hchars, hrest⟩ := flatMap_escapedChar_inj h
  exact ⟨String.toList_inj.mp hchars, hrest⟩

theorem string_inj {s t : String} (h : string s = string t) : s = t :=
  (string_append_inj (congrArg (· ++ []) h)).1

end Literal
end RBinding

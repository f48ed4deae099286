import Mathlib.Data.List.Basic

/-!
# RBinding.Proofs.Header.Reading

Arguments as a reader of R source finds them. It knows quotes, in which a backslash takes the next
character with it, and brackets, and takes the commas outside of both as the ends of arguments
(`arguments`).

Text that leaves the reader where it was, and in which no argument ends, is `SelfContained`. It is
found again between commas, whatever it is made of (`arguments_intercalate`).
-/

namespace RBinding
namespace Source

/-- Where a reader stands: in code at a depth of brackets, or there between quotes. -/
inductive Position where
  | code (depth : Nat)
  | quoted (mark : Char) (depth : Nat)
  | escaped (mark : Char) (depth : Nat)
  deriving DecidableEq, Repr

def isQuote (c : Char) : Bool :=
  c == '"' || c == '\'' || c == '`'

def isOpening (c : Char) : Bool :=
  c == '(' || c == '[' || c == '\x7b'

def isClosing (c : Char) : Bool :=
  c == ')' || c == ']' || c == '\x7d'

namespace Position

def next : Position → Char → Position
  | .code depth, c =>
    if isQuote c then .quoted c depth
    else if isOpening c then .code (depth + 1)
    else if isClosing c then .code (depth - 1)
    else .code depth
  | .quoted mark depth, c =>
    if c = mark then .code depth
    else if c = '\\' then .escaped mark depth
    else .quoted mark depth
  | .escaped mark depth, _ => .quoted mark depth

/-- An argument ends before the character. -/
def endsBefore : Position → Char → Bool
  | .code 0, c => c == ','
  | _, _ => false

/-- Where a reader gets to by a text in which no argument ends. -/
def after? : Position → List Char → Option Position
  | p, [] => some p
  | p, c :: cs => if p.endsBefore c then none else (p.next c).after? cs

end Position

/-- The parts of a text between the ends of arguments. -/
def parts : Position → List Char → List (List Char)
  | _, [] => [[]]
  | p, c :: cs =>
    if p.endsBefore c then [] :: parts p cs
    else (parts (p.next c) cs).modifyHead (c :: ·)

def withoutBlanks (text : List Char) : List Char :=
  text.dropWhile (· == ' ')

/-- The arguments in a text, without the blanks before them. -/
def arguments (text : List Char) : List (List Char) :=
  if text.isEmpty then [] else (parts (.code 0) text).map withoutBlanks

theorem after?_append (p : Position) (xs ys : List Char) :
    p.after? (xs ++ ys) = (p.after? xs).bind (·.after? ys) := by
  induction xs generalizing p with
  | nil => rfl
  | cons c cs ih =>
    simp only [List.cons_append, Position.after?]
    split
    · rfl
    · exact ih _

theorem after?_append_of_eq {p q : Position} {xs : List Char} (h : p.after? xs = some q)
    (ys : List Char) : p.after? (xs ++ ys) = q.after? ys := by
  rw [after?_append, h, Option.bind_some]

theorem parts_append {p q : Position} {xs : List Char} (h : p.after? xs = some q)
    (ys : List Char) : parts p (xs ++ ys) = (parts q ys).modifyHead (xs ++ ·) := by
  induction xs generalizing p with
  | nil =>
    obtain rfl : p = q := Option.some.inj h
    exact (congrFun List.modifyHead_id _).symm
  | cons c cs ih =>
    rw [Position.after?] at h
    split at h
    · cases h
    · next hend =>
      simp [parts, hend, ih h, Function.comp_def]

theorem parts_eq_singleton {p q : Position} {xs : List Char} (h : p.after? xs = some q) :
    parts p xs = [xs] := by
  simpa [parts] using parts_append h []

/-- In code at any depth, no argument ends in the text, and it leaves the reader at that depth. -/
def SelfContained (text : List Char) : Prop :=
  ∀ depth, (Position.code depth).after? text = some (.code depth)

/-- The characters that a reader heeds outside of quotes. -/
def heeded : List Char :=
  ['"', '\'', '`', '(', '[', '\x7b', ')', ']', '\x7d', ',']

theorem SelfContained.append {xs ys : List Char} (hx : SelfContained xs) (hy : SelfContained ys) :
    SelfContained (xs ++ ys) := by
  intro depth
  rw [after?_append_of_eq (hx depth)]
  exact hy depth

theorem selfContained_of_not_mem_heeded {text : List Char} (h : ∀ c ∈ text, c ∉ heeded) :
    SelfContained text := by
  intro depth
  induction text with
  | nil => rfl
  | cons c cs ih =>
    obtain ⟨hc, hcs⟩ := List.forall_mem_cons.mp h
    simp only [heeded, List.mem_cons, List.not_mem_nil, or_false, not_or] at hc
    have hend : (Position.code depth).endsBefore c = false := by
      cases depth <;> simp [Position.endsBefore, hc]
    have hnext : (Position.code depth).next c = .code depth := by
      simp [Position.next, isQuote, isOpening, isClosing, hc]
    rw [Position.after?, hend, hnext]
    exact ih hcs

theorem after?_intercalate {texts : List (List Char)} (h : ∀ t ∈ texts, SelfContained t)
    (depth : Nat) :
    (Position.code (depth + 1)).after? ([',', ' '].intercalate texts) =
      some (.code (depth + 1)) := by
  induction texts with
  | nil => rfl
  | cons t ts ih =>
    obtain ⟨ht, hts⟩ := List.forall_mem_cons.mp h
    cases ts with
    | nil =>
      rw [List.intercalate_singleton]
      exact ht _
    | cons t' ts =>
      rw [List.intercalate_cons_cons, List.append_assoc, after?_append_of_eq (ht _)]
      exact ih hts

theorem SelfContained.bracketed {texts : List (List Char)} (h : ∀ t ∈ texts, SelfContained t) :
    SelfContained ('(' :: ([',', ' '].intercalate texts ++ [')'])) := by
  intro depth
  have hopen : (Position.code depth).after? ['('] = some (.code (depth + 1)) := by
    cases depth <;> rfl
  rw [← List.singleton_append, after?_append_of_eq hopen,
    after?_append_of_eq (after?_intercalate h depth)]
  rfl

theorem SelfContained.quoted {mark : Char} (hmark : isQuote mark = true) {text : List Char}
    (h : ∀ depth, (Position.quoted mark depth).after? text = some (.quoted mark depth)) :
    SelfContained (mark :: (text ++ [mark])) := by
  intro depth
  have hcomma : mark ≠ ',' := by
    rintro rfl
    cases hmark
  have hopen : (Position.code depth).after? [mark] = some (.quoted mark depth) := by
    cases depth <;> simp [Position.after?, Position.endsBefore, Position.next, hmark, hcomma]
  rw [← List.singleton_append, after?_append_of_eq hopen, after?_append_of_eq (h depth)]
  simp [Position.after?, Position.endsBefore, Position.next]

theorem after?_quoted {mark : Char} {text : List Char} (h : ∀ c ∈ text, c ≠ mark ∧ c ≠ '\\')
    (depth : Nat) : (Position.quoted mark depth).after? text = some (.quoted mark depth) := by
  induction text with
  | nil => rfl
  | cons c cs ih =>
    obtain ⟨⟨hmark, hescape⟩, hcs⟩ := List.forall_mem_cons.mp h
    simp [Position.after?, Position.endsBefore, Position.next, hmark, hescape, ih hcs]

/-- The text can stand among arguments on one line. -/
structure Readable (text : List Char) : Prop where
  selfContained : SelfContained text
  newline_not_mem : '\n' ∉ text

theorem Readable.append {xs ys : List Char} (hx : Readable xs) (hy : Readable ys) :
    Readable (xs ++ ys) where
  selfContained := hx.selfContained.append hy.selfContained
  newline_not_mem := by simp [hx.newline_not_mem, hy.newline_not_mem]

theorem readable_of_class {p : Char → Bool} (hp : ('\n' :: heeded).any p = false)
    {text : List Char} (h : text.all p = true) : Readable text := by
  rw [List.all_eq_true] at h
  rw [List.any_eq_false] at hp
  refine ⟨selfContained_of_not_mem_heeded fun c hc hmem => ?_, fun hmem => ?_⟩
  · exact hp c (List.mem_cons_of_mem _ hmem) (h c hc)
  · exact hp '\n' List.mem_cons_self (h '\n' hmem)

theorem parts_intercalate {t : List Char} {ts : List (List Char)}
    (h : ∀ x ∈ t :: ts, SelfContained x) :
    parts (.code 0) ([',', ' '].intercalate (t :: ts)) = t :: ts.map (' ' :: ·) := by
  induction ts generalizing t with
  | nil =>
    rw [List.intercalate_singleton]
    exact parts_eq_singleton (h t List.mem_cons_self 0)
  | cons t' ts ih =>
    obtain ⟨ht, hts⟩ := List.forall_mem_cons.mp h
    rw [List.intercalate_cons_cons, List.append_assoc, parts_append (ht 0)]
    simp [parts, Position.endsBefore, Position.next, isQuote, isOpening, isClosing, ih hts]

/-- Between commas, self-contained texts are the arguments that a reader finds. -/
theorem arguments_intercalate {texts : List (List Char)} (h : ∀ t ∈ texts, SelfContained t)
    (hne : ∀ t ∈ texts, t ≠ []) (hblank : ∀ t ∈ texts, withoutBlanks t = t) :
    arguments ([',', ' '].intercalate texts) = texts := by
  cases texts with
  | nil => rfl
  | cons t ts =>
    obtain ⟨ht, hts⟩ := List.forall_mem_cons.mp hblank
    have htext : ([',', ' '].intercalate (t :: ts)).isEmpty = false := by
      cases ts <;> simp [List.intercalate_cons_cons, hne t List.mem_cons_self]
    have hmap : (ts.map (' ' :: ·)).map withoutBlanks = ts := by
      rw [List.map_map]
      exact (List.map_congr_left fun x hx => hts x hx).trans (List.map_id _)
    simp only [arguments, htext, parts_intercalate h, List.map_cons, ht, hmap]
    rfl

example : arguments "x = list(\"1, y\", 2), `a, b`".toList =
    ["x = list(\"1, y\", 2)".toList, "`a, b`".toList] := by
  decide

end Source
end RBinding

import RBinding.Failure
import RBinding.Text.Alphanumeric
import RBinding.Value

/-!
# RBinding.Options

The options of a run and how they are checked. A `Request` holds the options as they were given,
each possibly of the wrong type; `Request.check` reads them one after the other and gives either
the options or every issue there is, in the order of the options.

A wrapper's name must be a syntactic R name and a prefix must not be empty. Extra tags are a
dictionary of texts; the name of a tag consists of letters, numerals and underscores and is not made
of underscores alone. An option that is true or false may also be given as 1 or 0 or as one of a few
words.

`Request.check` follows pydantic's lax mode, in which a number or a truth value is not read as a
text either. Bytes, which that mode decodes as UTF-8, are here a value of another type whose content
is not known (`Value.other`), and are refused.
-/

namespace RBinding

/-- Decides what is handed over for a parameter, given its name and the documentation. A hook leaves
the documentation as it is: what is assembled afterwards is the block that the hook was shown. -/
abbrev ParameterHook := String → DocBlock → Except Failure Value

/-- Gives the text that runs after the call. -/
abbrev PostprocessHook := Unit → Except Failure Value

structure Options where
  generatedName : Option String := none
  namePrefix : Option String := none
  parameterHook : Option ParameterHook := none
  postprocessHook : Option PostprocessHook := none
  extraTags : Table String := .empty
  exported : Bool := true

namespace Options

/-- A hook as it was given; what cannot be called is known by the name of its type. -/
inductive GivenHook (Hook : Type) where
  | absent
  | callable (hook : Hook)
  | notCallable (typeName : String)

structure Request where
  generatedName : Value := .null
  namePrefix : Value := .null
  parameterHook : GivenHook ParameterHook := .absent
  postprocessHook : GivenHook PostprocessHook := .absent
  extraTags : Value := .dict []
  exported : Value := .boolean true

abbrev Reading (α : Type) := Except (List Issue) α

def issue {α : Type} (option : String) (kind : IssueKind) : Reading α :=
  .error [⟨[.name option], kind⟩]

def readGeneratedName (v : Value) : Reading (Option String) :=
  match v with
  | .null => .ok none
  | .text s =>
    if Symbol.isSyntactic s then .ok (some s) else issue "generated_name" (.notSyntactic s)
  | _ => issue "generated_name" .notText

def readPrefix (v : Value) : Reading (Option String) :=
  match v with
  | .null => .ok none
  | .text s => if s.isEmpty then issue "prefix" .emptyText else .ok (some s)
  | _ => issue "prefix" .notText

def readHook {Hook : Type} (place : String) : GivenHook Hook → Reading (Option Hook)
  | .absent => .ok none
  | .callable hook => .ok (some hook)
  | .notCallable _ => issue place .notCallable

/-- The number is a signed word of 64 bits. -/
def isWord (n : Int) : Bool :=
  -(Nat.pow 2 63 : Nat) ≤ n && n < (Nat.pow 2 63 : Nat)

/-- Letters, numerals and underscores, and not underscores alone. -/
def isTagName (tag : String) : Bool :=
  let cs := tag.toList.filter (· != '_')
  !cs.isEmpty && cs.all Text.isAlphanumeric

/-- The text of a key, or one that stands in for it if a number in it has too many digits. -/
def keyText (key : Value) : String :=
  key.shown?.getD s!"<unprintable {key.typeName} object>"

/-- How a key is named on the way to an issue: a whole number within 64 bits as a number. -/
def keyStep (key : Value) : Step :=
  match key with
  | .text s => .name s
  | .boolean b => .number (if b then 1 else 0)
  | .integer n => if isWord n then .number n else .name (keyText key)
  | _ => .name (keyText key)

def entryIssues (e : Value × Value) : List Issue :=
  (if e.1.isText then [] else [⟨[.name "extra_tags", keyStep e.1, .name "[key]"], .notText⟩]) ++
    if e.2.isText then [] else [⟨[.name "extra_tags", keyStep e.1], .notText⟩]

def textEntries (es : List (Value × Value)) : Table String :=
  Table.ofList (es.filterMap fun e =>
    match e with
    | (.text name, .text text) => some (name, text)
    | _ => none)

/-- The entries are read first; the first name that is none is reported only if they are texts. -/
def readExtraTags (given : Value) : Reading (Table String) :=
  match given with
  | .dict es =>
    match es.flatMap entryIssues with
    | [] =>
      match (textEntries es).keys.find? (!isTagName ·) with
      | some tag => issue "extra_tags" (.badTag tag)
      | none => .ok (textEntries es)
    | found => .error found
  | _ => issue "extra_tags" .notTable

def trueWords : List String := ["1", "on", "t", "true", "y", "yes"]

def falseWords : List String := ["0", "off", "f", "false", "n", "no"]

def booleanWord? (s : String) : Option Bool :=
  let word := String.ofList (s.toList.map Char.toLower)
  if trueWords.contains word then some true
  else if falseWords.contains word then some false
  else none

def booleanNumber? (n : Int) : Option Bool :=
  if n = 1 then some true else if n = 0 then some false else none

/-- The whole number that a double is equal to, if it lies within the range of signed words. -/
def wholeNumber? (x : Double) : Option Int :=
  match x.toInt? with
  | none => none
  | some n => if n.natAbs < Nat.pow 2 63 then some n else none

def orUnreadable (b : Option Bool) : Reading Bool :=
  match b with
  | some b => .ok b
  | none => issue "export" .unreadableBoolean

/-- Whole numbers outside the words are not read as truth values at all. -/
def readNumber (n : Int) : Reading Bool :=
  if isWord n then orUnreadable (booleanNumber? n) else issue "export" .notBoolean

def readExported (v : Value) : Reading Bool :=
  match v with
  | .boolean b => .ok b
  | .text s => orUnreadable (booleanWord? s)
  | .integer n => readNumber n
  | .real x =>
    match wholeNumber? x with
    | some n => orUnreadable (booleanNumber? n)
    | none => issue "export" .notBoolean
  | _ => issue "export" .notBoolean

def issues {α : Type} : Reading α → List Issue
  | .ok _ => []
  | .error found => found

/-- The options, or all issues in the order of the options. -/
def Request.check (r : Request) : Except (List Issue) Options :=
  let generatedName := readGeneratedName r.generatedName
  let namePrefix := readPrefix r.namePrefix
  let parameterHook := readHook "parameter_hook" r.parameterHook
  let postprocessHook := readHook "postprocess_hook" r.postprocessHook
  let extraTags := readExtraTags r.extraTags
  let exported := readExported r.exported
  match generatedName, namePrefix, parameterHook, postprocessHook, extraTags, exported with
  | .ok n, .ok p, .ok h, .ok q, .ok t, .ok e => .ok ⟨n, p, h, q, t, e⟩
  | _, _, _, _, _, _ =>
    .error (issues generatedName ++ issues namePrefix ++ issues parameterHook ++
      issues postprocessHook ++ issues extraTags ++ issues exported)

end Options

end RBinding

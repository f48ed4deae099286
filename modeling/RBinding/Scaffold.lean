import RBinding.Docstring.Reading
import RBinding.Options.Tags
import RBinding.Rendering

/-!
# RBinding.Scaffold

A wrapper for a target, from its description to the R source. A `Provider` describes targets: it
gives the parameters and the raw documentation, or fails. Providers may keep a state between
descriptions.

One run goes through fixed stages. The options are checked, the target is described, repeated
parameters are dropped, the documentation is read and checked, the parameters are rendered, the
text to run after the call is asked for, and the wrapper is assembled. A failure ends the run at
its stage. Only a target whose signature is not available still gets a wrapper: one without
parameters, with a warning in its documentation.
-/

namespace RBinding

structure Description where
  parameters : List Parameter
  doc : Option String
  deriving DecidableEq, Repr, Inhabited

/-- A source of descriptions, with what it remembers from one to the next. -/
structure Provider (State : Type) where
  describe : State → String → State × Traced Description

namespace Provider

def ofTable (t : Table (Except Failure Description)) : Provider Unit where
  describe _ target :=
    ((), match t.get? target with
      | some answer => Traced.ofExcept answer
      | none => Traced.fail (.targetNotFound (.unknown target) (some target)))

end Provider

namespace Scaffold

/-- Parameters without the later ones of a name, and those later ones. -/
def dedupe (seen : List String) : List Parameter → List Parameter × List Parameter
  | [] => ([], [])
  | p :: ps =>
    if seen.contains p.name then
      let (kept, dropped) := dedupe seen ps
      (kept, p :: dropped)
    else
      let (kept, dropped) := dedupe (p.name :: seen) ps
      (p :: kept, dropped)

/-- A description that the rest of a run can work with. -/
structure Described where
  parameters : List Parameter
  doc : Option String
  warnings : List String
  deriving DecidableEq, Repr

def signatureWarning (target : String) : String :=
  s!"signature of {target} is unavailable; the wrapper declares no parameters"

/-- Goes on without parameters where the signature is not available. -/
def orWithoutSignature (target : String) (description : Traced Description) : Traced Described :=
  match description.result with
  | .ok d => ⟨description.events, .ok ⟨d.parameters, d.doc, []⟩⟩
  | .error (.signatureUnavailable reason _ doc) =>
    ⟨description.events ++ [.note (.withoutSignature target reason.message)],
      .ok ⟨[], doc, [signatureWarning target]⟩⟩
  | .error e => ⟨description.events, .error e⟩

/-- The names that documentation may use for a parameter beside its own. -/
def aliasTable (parameters : List Parameter) : Table String :=
  Table.ofList (parameters.flatMap fun p => p.aliases.map fun a => (a, p.name))

def coverageNotes (target : String) (parameters : List Parameter) (doc : DocBlock) : List Note :=
  (if doc.isEmpty then [.withoutDocumentation target]
    else (Coverage.check parameters doc false).warnings.map (.incomplete target)) ++
  [.documentedShare target (Coverage.share parameters doc).percent]

def readDoc (target : String) (parameters : List Parameter) (raw : Option String) :
    Traced DocBlock := do
  let reading := Docstring.read raw (parameters.map (·.name)) (aliasTable parameters)
  Traced.notes (reading.repeated.map .repeatedEntry)
  Traced.notes (coverageNotes target parameters reading.block)
  pure reading.block

def postprocess (hook : Option PostprocessHook) : Traced (Option String) :=
  match hook with
  | none => pure none
  | some hook => do
    Traced.event .postprocessHook
    match ← Traced.ofExcept (hook ()) with
    | .text s => pure (some s)
    | v => Traced.fail (.postprocessHookResult v.typeName)

def wrapperName (target : String) (options : Options) : String :=
  match options.generatedName with
  | none => AccessPath.derivedName target options.namePrefix
  | some name =>
    if name.isEmpty then AccessPath.derivedName target options.namePrefix else name

def assemble (settings : Settings) (a : Assembly) : Traced Wrapper :=
  match a.toWrapper settings with
  | .ok w => pure w
  | .error e => Traced.fail (.notAssembled e)

def wrapDescribed (settings : Settings) (target : String) (options : Options) (d : Described) :
    Traced Wrapper := do
  let (parameters, repeated) := dedupe [] d.parameters
  Traced.notes (repeated.map fun p => .repeatedParameter target p.name)
  let doc ← readDoc target parameters d.doc
  let rendered ← Rendering.renderAll options.parameterHook doc parameters
  let text ← postprocess options.postprocessHook
  let name := wrapperName target options
  let wrapper ← assemble settings
    { target := target
      name := name
      parameters := parameters
      rendered := rendered
      doc := doc
      postprocess := text
      extraTags := options.extraTags
      exported := options.exported
      warnings := d.warnings }
  Traced.note (.scaffolded name target parameters.length)
  pure wrapper

def wrap (settings : Settings) (target : String) (options : Options)
    (description : Traced Description) : Traced Wrapper := do
  Traced.note (.describing target)
  Traced.event (.described target)
  let d ← orWithoutSignature target description
  wrapDescribed settings target options d

def run {State : Type} (settings : Settings) (provider : Provider State) (state : State)
    (target : String) (options : Options) : State × Traced Wrapper :=
  let (state, description) := provider.describe state target
  (state, wrap settings target options description)

end Scaffold

/-- A wrapper with the layout of the settings and no hooks. -/
def scaffold {State : Type} (settings : Settings) (provider : Provider State) (state : State)
    (target : String) : State × Traced Wrapper :=
  Scaffold.run settings provider state target {}

def Options.Request.read (request : Options.Request) : Except Failure Options :=
  match Options.tagEntries request.extraTags with
  | .error e => .error e
  | .ok tags =>
    match { request with extraTags := tags }.check with
    | .error issues => .error (.invalidOptions issues)
    | .ok options => .ok options

/-- A wrapper with options as they were given; nothing is described if they are not in order. -/
def scaffoldCustom {State : Type} (settings : Settings) (provider : Provider State) (state : State)
    (target : String) (request : Options.Request) : State × Traced Wrapper :=
  match request.read with
  | .error e => (state, Traced.fail e)
  | .ok options => Scaffold.run settings provider state target options

end RBinding

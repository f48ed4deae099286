import RBinding.Coverage
import RBinding.Failure
import RBinding.Literal

/-!
# RBinding.Trace

What a run does, in order. An `Event` is a note for the log or a call that leaves the run: the
description of a target, or a hook. A `Traced` result is a value or a failure together with the
events that led to it, so the events before a failure are kept.

`Traced.bind_ok` and `Traced.bind_error` say that a sequence of two steps has the events of both,
and that nothing happens after a failure.
-/

namespace RBinding

inductive Level where
  | debug
  | info
  | warning
  deriving DecidableEq, Repr

inductive Topic where
  | docstring
  | introspection
  | scaffolding
  | rendering
  deriving DecidableEq, Repr

inductive Note where
  | repeatedEntry (name : String)
  | notAModule (path : String) (message : String)
  | unwritableDefault (target : String) (parameter : String) (message : String)
  | describing (target : String)
  | withoutSignature (target : String) (message : String)
  | repeatedParameter (target : String) (parameter : String)
  | withoutDocumentation (target : String)
  | incomplete (target : String) (finding : Coverage.Finding)
  | documentedShare (target : String) (percent : Nat)
  | replaced (parameter : String) (expression : String)
  | scaffolded (name : String) (target : String) (parameters : Nat)
  deriving DecidableEq, Repr

namespace Note

def topic : Note → Topic
  | .repeatedEntry _ => .docstring
  | .notAModule _ _ => .introspection
  | .unwritableDefault _ _ _ => .introspection
  | .replaced _ _ => .rendering
  | _ => .scaffolding

def level : Note → Level
  | .notAModule _ _ => .debug
  | .describing _ => .debug
  | .documentedShare _ _ => .debug
  | .replaced _ _ => .debug
  | .scaffolded _ _ _ => .info
  | _ => .warning

def message : Note → String
  | .repeatedEntry name =>
    s!"Duplicate documentation for parameter '{name}'; keeping the first entry"
  | .notAModule path message => s!"{path} is not a module: {message}"
  | .unwritableDefault target parameter message =>
    s!"{target}: default for '{parameter}' emitted as NULL ({message})"
  | .describing target => s!"Describing {target}"
  | .withoutSignature target message =>
    s!"{target}: {message}; emitting a wrapper without parameters"
  | .repeatedParameter target parameter =>
    s!"{target}: duplicate parameter '{parameter}' ignored"
  | .withoutDocumentation target => s!"{target}: no documentation found"
  | .incomplete target finding => target ++ ": " ++ finding.message
  | .documentedShare target percent => s!"{target}: parameter doc coverage {percent}%"
  | .replaced parameter expression =>
    s!"Parameter '{parameter}' rewritten to " ++ Text.quoted expression
  | .scaffolded name target parameters =>
    s!"Scaffolded {name} for {target} ({parameters} parameters)"

end Note

inductive Event where
  | note (n : Note)
  | described (target : String)
  | parameterHook (parameter : String)
  | postprocessHook
  deriving DecidableEq, Repr

def Event.note? : Event → Option Note
  | .note n => some n
  | _ => none

def Event.described? : Event → Option String
  | .described target => some target
  | _ => none

def Event.parameterHook? : Event → Option String
  | .parameterHook parameter => some parameter
  | _ => none

structure Traced (α : Type) where
  events : List Event
  result : Except Failure α

namespace Traced

variable {α β : Type}

def pure (a : α) : Traced α :=
  ⟨[], .ok a⟩

def fail (e : Failure) : Traced α :=
  ⟨[], .error e⟩

def bind (t : Traced α) (next : α → Traced β) : Traced β :=
  match t.result with
  | .error e => ⟨t.events, .error e⟩
  | .ok a => ⟨t.events ++ (next a).events, (next a).result⟩

instance : Monad Traced where
  pure := Traced.pure
  bind := Traced.bind

def event (e : Event) : Traced Unit :=
  ⟨[e], .ok ()⟩

def note (n : Note) : Traced Unit :=
  event (.note n)

def notes (ns : List Note) : Traced Unit :=
  ⟨ns.map .note, .ok ()⟩

def ofExcept (r : Except Failure α) : Traced α :=
  ⟨[], r⟩

def log (t : Traced α) : List Note :=
  t.events.filterMap Event.note?

/-- The parameters for which a hook was called, in order. -/
def hookCalls (t : Traced α) : List String :=
  t.events.filterMap Event.parameterHook?

/-- The targets whose description was asked for, in order. -/
def describeCalls (t : Traced α) : List String :=
  t.events.filterMap Event.described?

theorem bind_ok {t : Traced α} {a : α} (h : t.result = .ok a) (next : α → Traced β) :
    t >>= next = ⟨t.events ++ (next a).events, (next a).result⟩ := by
  show Traced.bind t next = _
  simp [Traced.bind, h]

theorem bind_error {t : Traced α} {e : Failure} (h : t.result = .error e) (next : α → Traced β) :
    t >>= next = ⟨t.events, .error e⟩ := by
  show Traced.bind t next = _
  simp [Traced.bind, h]

/-- What follows a step only matters on the values that the step can give. -/
theorem bind_congr {t : Traced α} {next next' : α → Traced β}
    (h : ∀ a, t.result = .ok a → next a = next' a) : t >>= next = t >>= next' := by
  cases ht : t.result with
  | error e => rw [bind_error ht, bind_error ht]
  | ok a => rw [bind_ok ht, bind_ok ht, h a ht]

end Traced

end RBinding

import RBinding.Options
import RBinding.Trace

/-!
# RBinding.Rendering

The expressions handed over for the parameters, in declared order. Without a hook each parameter is
handed over by its own name. A hook is called once for each parameter and must give text; the
first failure ends the rendering.
-/

namespace RBinding
namespace Rendering

def replacementNotes (name expression : String) : List Note :=
  if expression = name then [] else [.replaced name expression]

def renderWith (hook : ParameterHook) (doc : DocBlock) (name : String) : Traced Rendered := do
  Traced.event (.parameterHook name)
  match ← Traced.ofExcept (hook name doc) with
  | .text expression =>
    Traced.notes (replacementNotes name expression)
    pure ⟨name, expression⟩
  | v => Traced.fail (.parameterHookResult v.typeName name)

def renderOne (hook : Option ParameterHook) (doc : DocBlock) (name : String) : Traced Rendered :=
  match hook with
  | none => pure ⟨name, name⟩
  | some hook => renderWith hook doc name

def renderAll (hook : Option ParameterHook) (doc : DocBlock) :
    List Parameter → Traced (List Rendered)
  | [] => pure []
  | p :: ps => do
    let rendered ← renderOne hook doc p.name
    let more ← renderAll hook doc ps
    pure (rendered :: more)

/-- The rendering with a hook that has not been checked. One that cannot be called fails at the
first parameter, so without parameters it does no harm. -/
def renderGiven (given : Options.GivenHook ParameterHook) (doc : DocBlock)
    (parameters : List Parameter) : Traced (List Rendered) :=
  match given with
  | .absent => renderAll none doc parameters
  | .callable hook => renderAll (some hook) doc parameters
  | .notCallable typeName =>
    if parameters.isEmpty then pure [] else Traced.fail (.hookNotCallable typeName)

end Rendering
end RBinding

import RBinding.Scaffold
import RBinding.World.Documentation
import RBinding.World.Signature

/-!
# RBinding.World.Describe

The description of a target: its declared parameters and its documentation. A target that cannot
be called is not found as a callable; one whose signature cannot be read, or that only takes
variadic arguments, has no signature to offer, but its documentation goes with the failure.
-/

namespace RBinding
namespace World

/-- Failures that mean there is no signature to read. -/
def meansNoSignature (e : Failure) : Bool :=
  e.isValueError || e.isTypeError

/-- The signature, where failing to read it is a fault of the target. -/
def readSignature (target : String) (object : Object) (doc : String) :
    Except Failure (List Formal) :=
  match signature object with
  | .ok formals => .ok formals
  | .error e =>
    if meansNoSignature e then
      let cause := NoSignature.unreadable target e.className e.message
      .error (.signatureUnavailable cause (some target) (some doc))
    else .error e

def describeObject (w : World) (imported : Imports) (target : String) (object : Object) :
    Traced Description := do
  if !object.isCallable then
    Traced.fail (.targetNotFound (.notCallable target object.typeName) (some target))
  else
    let doc ← Traced.ofExcept (readDoc w imported object)
    let all ← Traced.ofExcept (readSignature target object doc)
    let formals := withoutReceiver object all
    if onlyVariadic formals then
      Traced.fail (.signatureUnavailable (.onlyVariadic target) (some target) (some doc))
    else
      let parameters ← declareAll target formals
      pure ⟨parameters, some doc⟩

def describe (w : World) (imported : Imports) (target : String) : Imports × Traced Description :=
  let (imported, found) := w.resolve imported target
  (imported, do
    let object ← found
    describeObject w imported target object)

def provider (w : World) : Provider Imports where
  describe := w.describe

end World
end RBinding

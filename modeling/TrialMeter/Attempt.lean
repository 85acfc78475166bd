import TrialMeter.Failure
import TrialMeter.Kernel.Meter

/-!
# Attempts and trials

An `Attempt` is a metered computation that the kernel may refuse with an `Error`. A `Trial` is one
that may end with any `Failure`; an attempt is a trial, and so is a piece of arithmetic that may
fault. What a scope opened is given back by `Trial.finally`, whichever way the scope is left.

## Main definitions

* `Attempt`, `Attempt.ofReply`: the result of a request, or the error that its failure stands for.
* `Attempt.insist`: the object that an operation leaves, for a computation that ends with a refusal.
* `Trial`, and the computations that are trials.
* `Meter.finally`: a computation with a cleanup.
-/

namespace TrialMeter

/-- A metered computation that may be refused. -/
abbrev Attempt (α : Type) : Type := ExceptT Error Meter α

/-- A metered computation that may end with a failure. -/
abbrev Trial (α : Type) : Type := ExceptT Failure Meter α

namespace Attempt

/-- Makes a request; a failure becomes the error that `refusal` makes of its cause. -/
def ofReply {α : Type} (request : Meter (Reply α)) (refusal : Cause → Error) : Attempt α :=
  ExceptT.mk do
    match ← request with
    | .done result => return .ok result
    | .failed errno => return .error (refusal (.os errno))

/-- The object that an operation leaves. Where the operation is refused the object is dropped, so
this is for the computation that owns it. -/
def insist {α β : Type} (operation : Meter (Except Error α × β)) : Attempt β :=
  ExceptT.mk do
    let (result, object) ← operation
    return result.map fun _ => object

end Attempt

namespace Trial

instance (priority := low) : MonadLift (ExceptT Error Meter) (ExceptT Failure Meter) where
  monadLift x := ExceptT.mk do return (← x.run).mapError .error

instance : MonadLift (Except Fault) (ExceptT Failure Meter) where
  monadLift x := ExceptT.mk (pure (x.mapError .fault))

instance : MonadLift (Except Error) (ExceptT Failure Meter) where
  monadLift x := ExceptT.mk (pure (x.mapError .error))

end Trial

/-- Runs `body` and then `cleanup`, whether `body` gave a value or ended with an error. -/
def Meter.finally {ε α : Type} (body : ExceptT ε Meter α) (cleanup : Meter Unit) :
    ExceptT ε Meter α :=
  ExceptT.mk do
    let outcome ← body.run
    cleanup
    return outcome

end TrialMeter

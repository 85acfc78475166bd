import TrialMeter.Event.Kind
import TrialMeter.Fault
import TrialMeter.Kernel.Errno
import TrialMeter.Subject
import TrialMeter.Text.Quoted
import TrialMeter.Time.Source

/-!
# Errors and failures

An `Error` says which step of a measurement the kernel refused, with the `Cause` that it gave. A
`Failure` ends a trial: it is an error, or a fault of the arithmetic.

## Main definitions

* `Error`, `Error.message`, `Error.cause?`, `Error.isDenied`.
* `Failure`, `Failure.message`.
-/

namespace TrialMeter

/-- Why a request failed. -/
inductive Cause where
  /-- The kernel gave a number. -/
  | os (errno : Errno)
  /-- The answer was unusable, as the text says. -/
  | other (text : String)
deriving DecidableEq, Repr

/-- The wording of a cause. -/
def Cause.text : Cause → String
  | os errno => errno.text
  | other text => text

/-- The steps of a measurement that can be refused. -/
inductive Error where
  /-- A clock could not be read; no other time could stand in for it. -/
  | clock (source : Source) (cause : Cause)
  /-- A counter was refused. -/
  | opening (counter : String) (subject : Subject) (cause : Cause)
  /-- A counter without a descriptor was controlled or read. -/
  | notOpen
  /-- A counter could not be controlled. -/
  | controlling (cause : Cause)
  /-- A counter could not be read. -/
  | reading (cause : Cause)
  /-- The attributes of a new child could not be set up. -/
  | childAttr (cause : Cause)
  /-- A program could not be started. -/
  | spawning (program : String) (cause : Cause)
  /-- A child could not be waited for. -/
  | waiting (pid : Pid) (cause : Cause)
  /-- A program or an argument holds the character that ends it. -/
  | interiorNul (argument : String)
  /-- A group was given two members of one kind. -/
  | duplicateKind (kind : Kind)
deriving DecidableEq, Repr

namespace Error

/-- The wording of an error. -/
def message : Error → String
  | clock source cause => "failed to read clock " ++ source.name ++ ": " ++ cause.text
  | opening counter subject cause =>
    "failed to open counter " ++ counter ++ " for " ++ subject.text ++ ": " ++ cause.text
  | notOpen => "counter has no open descriptor"
  | controlling cause => "counter control operation failed: " ++ cause.text
  | reading cause => "failed to read counter: " ++ cause.text
  | childAttr cause => "failed to initialise spawn attributes: " ++ cause.text
  | spawning program cause => "failed to spawn " ++ program ++ ": " ++ cause.text
  | waiting pid cause => "failed to wait for process " ++ toString pid ++ ": " ++ cause.text
  | interiorNul argument => "argument contains an interior NUL byte: " ++ Text.quote argument
  | duplicateKind kind => "counter group already holds a member of kind " ++ kind.text

instance : ToString Error := ⟨message⟩

/-- The cause that the kernel gave, for the errors that have one. -/
def cause? : Error → Option Cause
  | clock _ cause | opening _ _ cause | controlling cause | reading cause | childAttr cause
  | spawning _ cause | waiting _ cause => some cause
  | notOpen | interiorNul _ | duplicateKind _ => none

/-- Whether the kernel denied access to a counter, rather than failing to provide it. -/
def isDenied : Error → Bool
  | opening _ _ (.os errno) => errno = .notPermitted || errno = .accessDenied
  | _ => false

end Error

/-- What ends a trial. -/
inductive Failure where
  | error (error : Error)
  | fault (fault : Fault)
deriving DecidableEq, Repr

/-- The wording of a failure. -/
def Failure.message : Failure → String
  | error e => e.message
  | fault f => f.message

end TrialMeter

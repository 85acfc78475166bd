import TrialMeter.Kernel.Meter
import TrialMeter.Text.Natural
import TrialMeter.Text.Words

/-!
# Scripts as text

A script is written one answer a line: the kind of request, and the answer. Lines without words are
passed over.

    clock 12 500000000      a sample: seconds and nanoseconds
    counter done            a counter is granted
    control done            a control request is granted
    read 42                 a count
    read short 4            too few bytes
    setup done              the attributes of a child are set up
    child 5000              the identifier of a child
    wait 256                a wait status

Every kind of answer can also be `failed` and an error number, as in `clock failed 22`.
-/

namespace TrialMeter.Script

/-- An answer that is a grant or a failure. -/
def grant? : List String → Option (Reply Unit)
  | ["done"] => some (.done ())
  | ["failed", errno] => (Text.natural? errno).map fun n => .failed ⟨n⟩
  | _ => none

/-- The sample of a clock. -/
def clock? : List String → Option (Reply Timestamp)
  | ["failed", errno] => (Text.natural? errno).map fun n => .failed ⟨n⟩
  | [secs, nanos] => do
    return .done ⟨Int64.ofInt (← Text.integer? secs), Int64.ofInt (← Text.integer? nanos)⟩
  | _ => none

/-- The answer to a read. -/
def delivery? : List String → Option Delivery
  | [value] => (Text.word64? value).map fun n => .full (UInt64.ofNat n)
  | ["short", bytes] => (Text.natural? bytes).map .short
  | ["failed", errno] => (Text.natural? errno).map fun n => .failed ⟨n⟩
  | _ => none

/-- The identifier of a child. -/
def child? : List String → Option (Reply Pid)
  | [pid] => (Text.natural? pid).map fun n => .done (n : Int)
  | ["failed", errno] => (Text.natural? errno).map fun n => .failed ⟨n⟩
  | _ => none

/-- A wait status. -/
def wait? : List String → Option (Reply WaitStatus)
  | [status] => (Text.natural? status).map fun n => .done ⟨UInt32.ofNat n⟩
  | ["failed", errno] => (Text.natural? errno).map fun n => .failed ⟨n⟩
  | _ => none

/-- Puts the answer of a line before the answers of a script. -/
def addLine (line : String) (s : Script) : Option Script :=
  match Text.words line with
  | [] => some s
  | "clock" :: answer => (clock? answer).map fun a => { s with clocks := a :: s.clocks }
  | "counter" :: answer => (grant? answer).map fun a => { s with counters := a :: s.counters }
  | "control" :: answer => (grant? answer).map fun a => { s with controls := a :: s.controls }
  | "read" :: answer => (delivery? answer).map fun a => { s with reads := a :: s.reads }
  | "setup" :: answer => (grant? answer).map fun a => { s with childAttrs := a :: s.childAttrs }
  | "child" :: answer => (child? answer).map fun a => { s with children := a :: s.children }
  | "wait" :: answer => (wait? answer).map fun a => { s with waits := a :: s.waits }
  | _ => none

/-- The script of a list of lines, or the last line that is no answer. -/
def ofLines : List String → Except String Script
  | [] => .ok {}
  | line :: rest => do
    let s ← ofLines rest
    match addLine line s with
    | some s => return s
    | none => throw line

end TrialMeter.Script

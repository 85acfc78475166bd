/-!
# Wait statuses

The kernel reports the end of a child by one word. `WaitStatus` reads it: a child exited with a
code, was killed by a signal, was stopped by a signal, or was continued; some words say none of
these.

## Main definitions

* `WaitStatus.code`, `WaitStatus.signal`, `WaitStatus.stopSignal`, `WaitStatus.coreDumped`,
  `WaitStatus.continued`, `WaitStatus.success`: what a status says.
* `WaitStatus.text`: the wording of a status.
-/

namespace TrialMeter

/-- The word by which the kernel reports the end of a child. -/
structure WaitStatus where
  raw : UInt32 := 0
deriving DecidableEq, Repr, Inhabited

namespace WaitStatus

/-- The names of the signals from one on. -/
def signalNames : List String :=
  ["SIGHUP", "SIGINT", "SIGQUIT", "SIGILL", "SIGTRAP", "SIGABRT", "SIGBUS", "SIGFPE", "SIGKILL",
    "SIGUSR1", "SIGSEGV", "SIGUSR2", "SIGPIPE", "SIGALRM", "SIGTERM", "SIGSTKFLT", "SIGCHLD",
    "SIGCONT", "SIGSTOP", "SIGTSTP", "SIGTTIN", "SIGTTOU", "SIGURG", "SIGXCPU", "SIGXFSZ",
    "SIGVTALRM", "SIGPROF", "SIGWINCH", "SIGIO", "SIGPWR", "SIGSYS"]

/-- The name of a signal, for the numbers that have one. -/
def signalName? : Nat → Option String
  | 0 => none
  | n + 1 => signalNames[n]?

/-- A signal's number, followed by its name where it has one. -/
def signalText (signal : Nat) : String :=
  match signalName? signal with
  | some name => toString signal ++ " (" ++ name ++ ")"
  | none => toString signal

/-- The low seven bits tell how a child ended. -/
def ending (s : WaitStatus) : Nat := (s.raw &&& 0x7f).toNat

/-- The byte above the lowest one: the exit code, or the signal that stopped the child. -/
def detail (s : WaitStatus) : Nat := ((s.raw >>> 8) &&& 0xff).toNat

/-- The exit code of a child that exited. -/
def code (s : WaitStatus) : Option Nat :=
  if s.ending = 0 then some s.detail else none

/-- The signal that killed a child. -/
def signal (s : WaitStatus) : Option Nat :=
  if 1 ≤ s.ending ∧ s.ending ≤ 126 then some s.ending else none

/-- Whether a killed child left a core image. -/
def coreDumped (s : WaitStatus) : Bool :=
  s.signal.isSome && s.raw &&& 0x80 != 0

/-- The signal that stopped a child. -/
def stopSignal (s : WaitStatus) : Option Nat :=
  if s.raw &&& 0xff = 0x7f then some s.detail else none

/-- Whether a stopped child went on. -/
def continued (s : WaitStatus) : Bool := s.raw == 0xffff

/-- Only the word zero is a success: a child with exit code zero may still carry other bits. -/
def success (s : WaitStatus) : Bool := s.raw == 0

/-- The digits of a number in base sixteen. -/
def hexText (n : Nat) : String := String.ofList (Nat.toDigits 16 n)

/-- The wording of a status. -/
def text (s : WaitStatus) : String :=
  match s.code, s.signal, s.stopSignal with
  | some code, _, _ => "exit status: " ++ toString code
  | none, some signal, _ =>
    "signal: " ++ signalText signal ++ if s.coreDumped then " (core dumped)" else ""
  | none, none, some signal => "stopped (not terminated) by signal: " ++ signalText signal
  | none, none, none =>
    if s.continued then "continued (WIFCONTINUED)"
    else "unrecognised wait status: " ++ toString s.raw.toNat ++ " 0x" ++ hexText s.raw.toNat

instance : ToString WaitStatus := ⟨text⟩

end WaitStatus

end TrialMeter

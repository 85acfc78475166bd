/-!
# Subjects

A `Subject` is the activity that a counter observes: the calling thread, or a process named by its
identifier.
-/

namespace TrialMeter

/-- The identifier of a process. -/
abbrev Pid := Int

/-- Whose activity a counter observes. -/
inductive Subject where
  /-- The calling thread. -/
  | caller
  /-- Another process, named and never owned. -/
  | process (pid : Pid)
deriving DecidableEq, Repr

namespace Subject

/-- The identifier under which the kernel is asked for a subject; the caller is process zero. -/
def pid : Subject → Pid
  | caller => 0
  | process pid => pid

/-- The wording of a subject. -/
def text : Subject → String
  | caller => "caller"
  | process pid => "pid " ++ toString pid

instance : ToString Subject := ⟨text⟩

end Subject

end TrialMeter

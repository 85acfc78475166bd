import TrialMeter.Failure

/-!
# Groups of counters

A `Group` is an ordered collection of members of different kinds that are driven together. An
operation on a group visits the members one after another; a member that refuses does not keep the
others from being visited, and the first refusal is reported. What a member does when it is driven
is left open: a type is a `Member` when it has a kind, knows whether it is open, and can be opened,
moved, started, stopped and asked for its count in some monad. Starting, stopping and asking give no
new member, so only opening and moving change whether a member is open.

## Main definitions

* `Member`: what a group needs of its members.
* `Group.ofMembers`: members as a group, unless a kind repeats.
* `Group.visit`, `Group.visitOpen`: the two ways through the members.
* `Group.drive`: one operation on all members.
* `Group.get`, `Group.retrieve`: the member of a kind, and its count.
-/

namespace TrialMeter

/-- What a group needs of its members. -/
class Member (μ : Type) (m : outParam (Type → Type)) where
  kind : μ → Kind
  isOpen : μ → Bool
  /-- Opens the member for the calling thread. -/
  openHere : μ → m (Except Error Unit × μ)
  /-- Moves the member to a process. -/
  reopen : μ → Pid → m (Except Error Unit × μ)
  start : μ → m (Except Error Unit)
  stop : μ → m (Except Error Unit)
  /-- The count, or zero when there is none. -/
  retrieve : μ → m UInt64

/-- An operation on all members of a group. -/
inductive Drive where
  | openHere
  | reopen (pid : Pid)
  | start
  | stop
deriving DecidableEq, Repr

/-- Members that are driven together. -/
structure Group (μ : Type) where
  members : List μ
deriving Repr

namespace Group

variable {μ : Type} {m : Type → Type}

/-- Of two results one after the other, the first refusal. -/
def firstRefusal : Except Error Unit → Except Error Unit → Except Error Unit
  | .error e, _ => .error e
  | .ok (), second => second

/-- Applies `act` to every member in order. -/
def visit [Monad m] (act : μ → m (Except Error Unit × μ)) :
    List μ → m (Except Error Unit × List μ)
  | [] => return (.ok (), [])
  | x :: rest => do
    let (first, x) ← act x
    let (others, rest) ← visit act rest
    return (firstRefusal first others, x :: rest)

/-- Applies `act` to every open member in order. -/
def visitOpen [Monad m] [Member μ m] (act : μ → m (Except Error Unit)) :
    List μ → m (Except Error Unit)
  | [] => return .ok ()
  | x :: rest =>
    if Member.isOpen x then do
      let first ← act x
      let others ← visitOpen act rest
      return firstRefusal first others
    else visitOpen act rest

section

variable [Member μ m]

/-- Splits members before the first one whose kind is that of a member before it. The members of
`grouped` come before all others. -/
def takeDistinct (grouped : List μ) : List μ → List μ × List μ
  | [] => (grouped, [])
  | x :: rest =>
    if grouped.any fun g => Member.kind g = Member.kind x then (grouped, x :: rest)
    else takeDistinct (grouped ++ [x]) rest

/-- The group of the given members, in their order; a kind that repeats is refused. -/
def ofMembers (members : List μ) : Except Error (Group μ) :=
  match takeDistinct [] members with
  | (grouped, []) => .ok ⟨grouped⟩
  | (_, x :: _) => .error (.duplicateKind (Member.kind x))

/-- The number of members. -/
def size (g : Group μ) : Nat := g.members.length

/-- Whether there are no members. -/
def isEmpty (g : Group μ) : Bool := g.members.isEmpty

/-- The kinds of the members, in order. -/
def kinds (g : Group μ) : List Kind := g.members.map Member.kind

/-- The number of open members. -/
def opened (g : Group μ) : Nat := g.members.countP Member.isOpen

/-- The member of a kind, when there is one. -/
def get (g : Group μ) (kind : Kind) : Option μ :=
  g.members.find? fun x => Member.kind x = kind

variable [Monad m]

/-- The count of the member of a kind, or zero when there is none. -/
def retrieve (g : Group μ) (kind : Kind) : m UInt64 :=
  match g.get kind with
  | some x => Member.retrieve x
  | none => return 0

/-- Opens every member for the calling thread. -/
def openHere (g : Group μ) : m (Except Error Unit × Group μ) := do
  let (result, members) ← visit Member.openHere g.members
  return (result, ⟨members⟩)

/-- Moves every member to the process `pid`. -/
def reopen (g : Group μ) (pid : Pid) : m (Except Error Unit × Group μ) := do
  let (result, members) ← visit (Member.reopen · pid) g.members
  return (result, ⟨members⟩)

/-- Starts every open member. -/
def start (g : Group μ) : m (Except Error Unit) := visitOpen Member.start g.members

/-- Stops every open member. -/
def stop (g : Group μ) : m (Except Error Unit) := visitOpen Member.stop g.members

/-- Performs one operation on all members. -/
def drive (g : Group μ) : Drive → m (Except Error Unit × Group μ)
  | .openHere => g.openHere
  | .reopen pid => g.reopen pid
  | .start => do return (← g.start, g)
  | .stop => do return (← g.stop, g)

end

end Group

end TrialMeter

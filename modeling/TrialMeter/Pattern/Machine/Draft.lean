import TrialMeter.Pattern.Machine.Basic

/-!
# Drafts of machines

A machine is drafted state by state. A state that is added gets the next number, and where it goes
on may be said later. The draft is given up as soon as the machine gets larger than it may be.

## Main definitions

* `Draft`, `Drafting`: the states so far, and the steps that add to them.
* `addState`, `link`: the two steps.
* `inRow`, `anyOf`, `copiesOf`: parts of a machine put together from smaller ones.
-/

namespace TrialMeter.Pattern

/-- The size that a machine may have. -/
def sizeLimit : Nat := 10485760

/-- The states of a machine that is being drafted, and their size. -/
structure Draft where
  states : Array State := #[]
  size : Nat := 0

/-- A step of a draft, which fails if the machine gets too large. -/
abbrev Drafting := StateT Draft Option

/-- The number of one more state. -/
def addState (s : State) : Drafting Nat := fun d =>
  let size := d.size + s.size
  if sizeLimit < size then none else some (d.states.size, ⟨d.states.push s, size⟩)

/-- What the size grows by if a state goes on to one more. -/
def Draft.growth (d : Draft) (source : Nat) : Nat :=
  match d.states[source]? with
  | some (.choice _) => State.waySize
  | _ => 0

/-- The state `source` goes on to `target`. -/
def link (source target : Nat) : Drafting Unit := fun d =>
  let size := d.size + d.growth source
  if sizeLimit < size then none
  else some ((), ⟨d.states.modify source (·.onTo target), size⟩)

/-- A part of a machine, which is entered at its first state and left from its last one. -/
structure Part where
  first : Nat
  last : Nat
deriving DecidableEq, Repr

/-! ### Small parts -/

/-- A state that goes on without reading, to where it is linked. -/
def addPass : Drafting Nat := addState (.pass 0)

/-- A choice, with a way to each state that it is linked to. -/
def addChoice : Drafting Nat := addState (.choice [])

/-- A part of one state. -/
def single (add : Drafting Nat) : Drafting Part := do
  let s ← add
  return ⟨s, s⟩

/-- A part that reads a byte of one of some ranges. -/
def readsAny (ranges : List (Nat × Nat)) : Drafting Part := do
  let last ← addPass
  let first ← addState (.readAny (ranges.map fun r => ⟨r.1, r.2, last⟩))
  return ⟨first, last⟩

/-- A part between two states that mark where it begins and ends. -/
def withMarks (part : Drafting Part) : Drafting Part := do
  let first ← addPass
  let p ← part
  let last ← addPass
  link first p.first
  link p.last last
  return ⟨first, last⟩

/-! ### Rows -/

/-- The last state of a row that starts with what is left from the state `last`. -/
def followedBy (last : Nat) : List (Drafting Part) → Drafting Nat
  | [] => pure last
  | part :: rest => do
    let p ← part
    link last p.first
    followedBy p.last rest

/-- Parts in a row. -/
def inRow : List (Drafting Part) → Drafting Part
  | [] => single addPass
  | part :: rest => do
    let p ← part
    let last ← followedBy p.last rest
    return ⟨p.first, last⟩

/-! ### Alternatives -/

/-- Parts as further ways of a choice, which all end in `last`. -/
def branchTo (choice last : Nat) : List (Drafting Part) → Drafting Unit
  | [] => pure ()
  | part :: rest => do
    let p ← part
    link choice p.first
    link p.last last
    branchTo choice last rest

/-- One of several parts. -/
def anyOf : List (Drafting Part) → Drafting Part
  | [] => readsAny []
  | [part] => part
  | part :: other :: rest => do
    let p ← part
    let q ← other
    let first ← addChoice
    let last ← addPass
    branchTo first last (pure p :: pure q :: rest)
    return ⟨first, last⟩

/-! ### Copies -/

/-- The last state of `n` copies of a part behind the state `last`. -/
def followedByCopies (part : Drafting Part) (last : Nat) : Nat → Drafting Nat
  | 0 => pure last
  | n + 1 => do
    let p ← part
    link last p.first
    followedByCopies part p.last n

/-- Just `n` copies of a part. -/
def exactly (part : Drafting Part) : Nat → Drafting Part
  | 0 => single addPass
  | n + 1 => do
    let p ← part
    let last ← followedByCopies part p.last n
    return ⟨p.first, last⟩

/-- The last state of up to `n` copies of a part behind the state `last`. Before each of them, the
copies may end at `stop`. -/
def followedByUpTo (part : Drafting Part) (stop last : Nat) : Nat → Drafting Nat
  | 0 => pure last
  | n + 1 => do
    let choice ← addChoice
    let p ← part
    link last choice
    link choice stop
    link choice p.first
    followedByUpTo part stop p.last n

/-- A part or nothing. -/
def maybe (part : Drafting Part) : Drafting Part := do
  let first ← addChoice
  let p ← part
  let last ← addPass
  link first p.first
  link first last
  link p.last last
  return ⟨first, last⟩

/-- Any number of copies of a part that reads at least one byte: after each of them, there is a
choice to go on. -/
def anyNumber (part : Drafting Part) : Drafting Part := do
  let choice ← addChoice
  let p ← part
  link choice p.first
  link p.last choice
  return ⟨choice, choice⟩

/-- Any number of copies of a part that may read nothing. -/
def anyNumberOrNone (part : Drafting Part) : Drafting Part := do
  let p ← part
  let again ← addChoice
  link p.last again
  link again p.first
  let first ← addChoice
  let last ← addPass
  link first p.first
  link first last
  link again last
  return ⟨first, last⟩

/-- `n` copies of a part, and any number more of the last of them. -/
def atLeast (part : Drafting Part) (n : Nat) : Drafting Part := do
  let repeated : Drafting Part := do
    let p ← part
    let choice ← addChoice
    link p.last choice
    link choice p.first
    return ⟨p.first, choice⟩
  if n ≤ 1 then repeated else inRow [exactly part (n - 1), repeated]

/-- Copies of a part, of which the shortest text is `shortest` bytes long. -/
def copiesOf (part : Drafting Part) (shortest : Option Nat) (least : Nat) (most : Option Nat) :
    Drafting Part :=
  match least, most with
  | 0, some 1 => maybe part
  | 0, none => if shortest.any (0 < ·) then anyNumber part else anyNumberOrNone part
  | n, none => atLeast part n
  | n, some m => do
    let p ← exactly part n
    if n = m then return p
    else
      let last ← addPass
      let reached ← followedByUpTo part last p.last (m - n)
      link reached last
      return ⟨p.first, last⟩

end TrialMeter.Pattern

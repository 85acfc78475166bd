import TrialMeter.Pattern.Tree.Escape

/-!
# Brackets

A set of characters stands between brackets: characters, ranges, escapes, named sets such as
`[:alpha:]` and further brackets. A circumflex after the bracket takes all other characters. Two
sets are combined by `&&`, `--` or `~~`; several such signs are applied from the left. A minus sign
at the start, and a closing bracket that would leave the set empty, stand for themselves.

## Main definitions

* `Items`, `OpenBracket`: what has been read of a bracket.
* `readBracket`: the tree that starts with the bracket at a cursor.
-/

namespace TrialMeter.Pattern

/-- The members that stand beside each other, the last one first. -/
structure Items where
  span : Span
  members : List Members := []

namespace Items

/-- The items with one more. The span runs from the first item to the last. -/
def push (u : Items) (m : Members) : Items :=
  let start := if u.members.isEmpty then m.span.start else u.span.start
  ⟨⟨start, m.span.stop⟩, m :: u.members⟩

/-- The items as one set. -/
def toMembers (u : Items) : Members :=
  match u.members with
  | [] => .nothing u.span
  | [m] => m
  | members => .union u.span members.reverse

end Items

/-- What has been read of a bracket: its opening, a set that waits for the one to be combined with,
and the items after that. -/
structure OpenBracket where
  opening : Span
  negated : Bool
  waiting : Option (Combination × Members) := none
  items : Items

namespace OpenBracket

/-- The bracket with one more item. -/
def push (b : OpenBracket) (m : Members) : OpenBracket := { b with items := b.items.push m }

/-- What has been read as one set. -/
def toMembers (b : OpenBracket) : Members :=
  let right := b.items.toMembers
  match b.waiting with
  | none => right
  | some (how, left) => .combined ⟨left.span.start, right.span.stop⟩ how left right

/-- The bracket after a sign that combines what has been read with what is `here`. -/
def combine (b : OpenBracket) (how : Combination) (here : Span) : OpenBracket :=
  { b with waiting := some (how, b.toMembers), items := ⟨here, []⟩ }

end OpenBracket

/-- The named sets of ASCII characters. -/
def namedSets : List (String × Ranges) :=
  [("alnum", [(0x30, 0x39), (0x41, 0x5a), (0x61, 0x7a)]),
    ("alpha", [(0x41, 0x5a), (0x61, 0x7a)]),
    ("ascii", [(0x0, 0x7f)]),
    ("blank", [(0x9, 0x9), (0x20, 0x20)]),
    ("cntrl", [(0x0, 0x1f), (0x7f, 0x7f)]),
    ("digit", [(0x30, 0x39)]),
    ("graph", [(0x21, 0x7e)]),
    ("lower", [(0x61, 0x7a)]),
    ("print", [(0x20, 0x7e)]),
    ("punct", [(0x21, 0x2f), (0x3a, 0x40), (0x5b, 0x60), (0x7b, 0x7e)]),
    ("space", [(0x9, 0xd), (0x20, 0x20)]),
    ("upper", [(0x41, 0x5a)]),
    ("word", [(0x30, 0x39), (0x41, 0x5a), (0x5f, 0x5f), (0x61, 0x7a)]),
    ("xdigit", [(0x30, 0x39), (0x41, 0x46), (0x61, 0x66)])]

/-- The named set that starts with the bracket at the cursor, if one does. -/
def readNamedSet? (c : Cursor) : Option (Members × Cursor) :=
  if !c.sees "[:" then none
  else
    let negated := c.sees "[:^"
    let inside := c.bumpBy (if negated then 3 else 2)
    let name := inside.ahead.takeWhile (· ≠ ':')
    let after := inside.bumpBy name.length
    if !after.sees ":]" then none
    else
      let after := after.bumpBy 2
      (namedSets.lookup (String.ofList name)).map fun ranges =>
        (.named ⟨c.position, after.position⟩ ranges negated, after)

/-- The minus signs and the closing bracket that stand for themselves at the start of a bracket
that was opened at `start`. -/
def readLeading (start : Position) : Step Items := fun c =>
  let literal (p : Position) (x : Char) : Members :=
    .atom (.literal ⟨⟨p, p.after x⟩, x, false⟩)
  let (dashes, after) := c.collect (· = '-')
  let items := dashes.foldl (fun u (x, p) => u.push (literal p x)) (⟨c.here, []⟩ : Items)
  match after.next? with
  | none =>
    Problem.raise .bracketOpen ⟨start, if dashes.isEmpty then after.position else start⟩
  | some ']' =>
    if dashes.isEmpty then
      let closed := after.advance
      if closed.isDone then Problem.raise .bracketOpen ⟨start, closed.position⟩
      else .ok (items.push (literal after.position ']'), closed)
    else .ok (items, after)
  | some _ => .ok (items, after)

/-- The start of the bracket at the cursor. -/
def openBracket : Step OpenBracket := fun c => do
  let start := c.position
  let c := c.advance
  let negated := c.sees "^"
  let c := if negated then c.advance else c
  let (items, c) ← readLeading start c
  return ({ opening := ⟨start, c.position⟩, negated, items }, c)

/-- The end of a range. -/
def Atom.literal? : Atom → Except Problem Literal
  | .literal l => .ok l
  | a => Problem.raise .rangeEnd a.span

/-- An atom as a member of a set. -/
def Atom.member? : Atom → Except Problem Members
  | .dot s => Problem.raise .bracketEscape s
  | .anchor s _ => Problem.raise .bracketEscape s
  | a => .ok (.atom a)

/-- The character or the escape at the cursor. -/
def readMember : Step Atom := fun c =>
  match c.next? with
  | some '\\' => readEscape c
  | some x => .ok (.literal ⟨c.nextSpan, x, false⟩, c.bump)
  | none => Problem.raise .bracketOpen c.here

/-- The item at the cursor, which may be a range, in a bracket with the given opening. -/
def readItem (opening : Span) : Step Members := fun c => do
  let (first, c) ← readMember c
  let c := c.settle
  if c.isDone then Problem.raise .bracketOpen opening
  else if !c.sees "-" || c.peekPast = some ']' || c.peekPast = some '-' then
    return (← first.member?, c)
  else
    let c := c.advance
    if c.isDone then Problem.raise .bracketOpen opening
    else
      let (last, c) ← readMember c
      let span := ⟨first.span.start, last.span.stop⟩
      let lower ← first.literal?
      let upper ← last.literal?
      if lower.char ≤ upper.char then return (.range span lower upper, c)
      else Problem.raise .rangeOrder span

/-- The sign at the cursor that combines two sets. -/
def combination? (c : Cursor) : Option Combination :=
  if c.sees "&&" then some .intersection
  else if c.sees "--" then some .difference
  else if c.sees "~~" then some .symmetricDifference
  else none

/-- The rest of a bracket that stands in the brackets `outer`, the innermost one first. Every item
takes at least one of the `room` characters ahead. -/
def readItems (room : Nat) (b : OpenBracket) (outer : List OpenBracket) : Step Tree := fun c => do
  let c := c.settle
  match room, c.next? with
  | 0, _ => Problem.raise .bracketOpen b.opening
  | _, none => Problem.raise .bracketOpen b.opening
  | room + 1, some ']' =>
    let c := c.bump
    let span := b.opening.through c.position
    match outer with
    | [] => return (.bracket span b.negated b.toMembers, c)
    | parent :: outer =>
      readItems room (parent.push (.bracket span b.negated b.toMembers)) outer c
  | room + 1, some '[' =>
    match readNamedSet? c with
    | some (m, c) => readItems room (b.push m) outer c
    | none =>
      let (inner, c) ← openBracket c
      readItems room inner (b :: outer) c
  | room + 1, some _ =>
    match combination? c with
    | some how =>
      let c := c.bumpBy 2
      readItems room (b.combine how c.here) outer c
    | none =>
      let (m, c) ← readItem b.opening c
      readItems room (b.push m) outer c

/-- The tree that starts with the bracket at the cursor. At most `room` characters follow that. -/
def readBracket (room : Nat) : Step Tree := fun c => do
  let (b, c) ← openBracket c
  readItems room b [] c

end TrialMeter.Pattern

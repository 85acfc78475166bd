import TrialMeter.Pattern.Cursor
import TrialMeter.Pattern.Tree
import TrialMeter.Text.Letters

/-!
# The start of a group

A group starts with a parenthesis. A question mark after it asks for something special: a name, as
in `(?P<year>` or `(?<year>`, flags for the group, as in `(?i-s:`, or flags for what follows, as in
`(?i-s)`, which is no group. Flags after a minus sign are cleared.

## Main definitions

* `Head`: what can start with a parenthesis.
* `readHead`: the start of the group at a cursor.
-/

namespace TrialMeter.Pattern

/-- What starts with a parenthesis. -/
inductive Head where
  /-- Flags for what follows. -/
  | setting (span : Span) (settings : Settings)
  /-- A group, with flags of its own or one whose text is remembered. -/
  | group (opening : Span) (settings : Option Settings)
deriving Repr

/-- The flag with a letter. -/
def Flag.ofLetter? : Char → Option Flag
  | 'i' => some .anyCase
  | 'm' => some .lines
  | 's' => some .dotAll
  | 'U' => some .fewFirst
  | 'u' => some .characters
  | 'R' => some .carriage
  | 'x' => some .blanks
  | _ => none

/-- What has been read of a list of flags: the flags with their places, the last one first, and the
place of the minus sign. -/
structure FlagList where
  flags : List (Flag × Bool × Span) := []
  minus : Option Span := none

/-- The flags of a list, in the order of the text. -/
def FlagList.settings (l : FlagList) : Settings :=
  (l.flags.map fun (f, set, _) => (f, set)).reverse

/-- The list with the flag or the minus sign `x`, which stands at `span`. -/
def FlagList.push (l : FlagList) (x : Char) (span : Span) : Except Problem FlagList :=
  if x = '-' then
    match l.minus with
    | some earlier => .error ⟨.flagMinusTwice, span, some earlier⟩
    | none => .ok { l with minus := some span }
  else
    match Flag.ofLetter? x with
    | none => Problem.raise .flagUnknown span
    | some f =>
      match l.flags.lookup f with
      | some (_, earlier) => .error ⟨.flagTwice, span, some earlier⟩
      | none => .ok { l with flags := (f, l.minus.isNone, span) :: l.flags }

/-- The flags at the cursor, up to a colon or a closing parenthesis. The list may not end with the
minus sign, which is the case if that is the `last` sign read. -/
def readFlagsFrom (c : Cursor) (l : FlagList) (last : Option Span) :
    List Char → Except Problem (Settings × Cursor)
  | [] => Problem.raise .flagsCut c.here
  | x :: rest =>
    if x = ':' || x = ')' then
      match last with
      | some minus => Problem.raise .flagMinusLast minus
      | none => .ok (l.settings, c)
    else do
      let l ← l.push x c.nextSpan
      readFlagsFrom c.bump l (if x = '-' then some c.nextSpan else none) rest

/-- The flags at the cursor, which stands before the sign that ends them afterwards. -/
def readFlags : Step Settings := fun c => readFlagsFrom c {} none c.ahead

/-- Whether a character can stand in the name of a group. -/
def isNameChar (isFirst : Bool) (c : Char) : Bool :=
  c = '_' || Text.isLetter c
    || (!isFirst && (Text.isNumeral c || c = '.' || c = '[' || c = ']'))

/-- The characters of a name, up to the sign that ends it. -/
def readNameFrom (isFirst : Bool) (c : Cursor) : List Char → Except Problem (List Char × Cursor)
  | [] => Problem.raise .nameCut c.here
  | x :: rest =>
    if x = '>' then .ok ([], c)
    else if !isNameChar isFirst x then Problem.raise .nameCharacter c.nextSpan
    else do
      let (name, c) ← readNameFrom false c.bump rest
      return (x :: name, c)

/-- The cursor after the name of a group, which no other group may have. -/
def passName (c : Cursor) : Except Problem Cursor := do
  let (name, after) ← readNameFrom true c c.ahead
  let span := ⟨c.position, after.position⟩
  if name.isEmpty then Problem.raise .nameEmpty c.here
  else
    match after.names.lookup name with
    | some earlier => .error ⟨.nameTwice, span, some earlier⟩
    | none => return { after.bump with names := (name, span) :: after.names }

/-- The signs of an assertion about the text around a place. -/
def lookArounds : List String := ["?=", "?!", "?<=", "?<!"]

/-- The start of the group at the cursor. -/
def readHead : Step Head := fun c => do
  let opening := c.nextSpan
  let c := c.bump.settle
  match lookArounds.find? c.sees with
  | some signs =>
    Problem.raise .lookAround (opening.through (c.bumpBy signs.length).position)
  | none =>
    if c.sees "?P<" then return (.group opening none, ← passName (c.bumpBy 3))
    else if c.sees "?<" then return (.group opening none, ← passName (c.bumpBy 2))
    else if !c.sees "?" then return (.group opening none, c)
    else
      let inside := c.bump
      if inside.isDone then Problem.raise .groupOpen opening
      else
        let (settings, after) ← readFlags inside
        if after.sees ":" then return (.group opening (some settings), after.bump)
        else if settings.isEmpty then Problem.raise .nothingRepeated c.here
        else return (.setting (opening.through after.bump.position) settings, after.bump)

end TrialMeter.Pattern

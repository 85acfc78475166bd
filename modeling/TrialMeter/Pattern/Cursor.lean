import TrialMeter.Pattern.Problem
import TrialMeter.Text.Words

/-!
# Reading a pattern from the left

A cursor stands at a place of a text and knows what lies ahead. It passes over one character at a
time. Where blanks are passed over, it rests only before a character that is neither a blank nor in
a comment; a comment starts at a hash sign and ends with the line.

## Main definitions

* `Cursor`, `Step`: where the reading stands, and what reads a part of the text.
* `Cursor.bump`, `Cursor.settle`, `Cursor.advance`: moving on.
* `Cursor.collect`: the characters ahead that are of a kind.
-/

namespace TrialMeter.Pattern

/-- Where the reading of a text stands. -/
structure Cursor where
  /-- What lies ahead. -/
  ahead : List Char
  position : Position := {}
  /-- Whether blanks and comments are passed over. -/
  skipsBlanks : Bool := false
  /-- The names of the groups so far. -/
  names : List (List Char × Span) := []
deriving DecidableEq, Repr

/-- What reads a part of the text. -/
abbrev Step (α : Type) := Cursor → Except Problem (α × Cursor)

/-- What lies ahead, and from where, after blanks and comments. -/
def skip (inComment : Bool) : List Char → Position → List Char × Position
  | [], p => ([], p)
  | c :: rest, p =>
    if inComment then skip (c ≠ '\n') rest (p.after c)
    else if Text.isBlank c then skip false rest (p.after c)
    else if c = '#' then skip true rest (p.after c)
    else (c :: rest, p)

/-- The characters of a kind at the start of a text, each with its place, and what follows them.
Blanks and comments between them are passed over if `skipsBlanks`. -/
def collectFrom (isWanted : Char → Bool) (skipsBlanks : Bool) (inComment : Bool) :
    List Char → Position → List (Char × Position) × List Char × Position
  | [], p => ([], [], p)
  | c :: rest, p =>
    if inComment then collectFrom isWanted skipsBlanks (c ≠ '\n') rest (p.after c)
    else if skipsBlanks && Text.isBlank c then
      collectFrom isWanted skipsBlanks false rest (p.after c)
    else if skipsBlanks && c = '#' then
      collectFrom isWanted skipsBlanks true rest (p.after c)
    else if isWanted c then
      let (found, after) := collectFrom isWanted skipsBlanks false rest (p.after c)
      ((c, p) :: found, after)
    else ([], c :: rest, p)

/-- The first character that is neither a blank nor, unless it stands `inComment`, a hash sign. Only
the first hash sign starts a comment. -/
def firstMark (inComment : Bool) : List Char → Option Char
  | [] => none
  | c :: rest =>
    if Text.isBlank c then firstMark inComment rest
    else if !inComment && c = '#' then firstMark true rest
    else some c

namespace Cursor

/-- The next character. -/
def next? (c : Cursor) : Option Char := c.ahead.head?

/-- Whether the text is over. -/
def isDone (c : Cursor) : Bool := c.ahead.isEmpty

/-- The span without characters at the cursor. -/
def here (c : Cursor) : Span := ⟨c.position, c.position⟩

/-- The span of the next character. -/
def nextSpan (c : Cursor) : Span :=
  match c.ahead with
  | [] => c.here
  | x :: _ => ⟨c.position, c.position.after x⟩

/-- The cursor after the next character. -/
def bump (c : Cursor) : Cursor :=
  match c.ahead with
  | [] => c
  | x :: rest => { c with ahead := rest, position := c.position.after x }

/-- The cursor after the next `n` characters. -/
def bumpBy (n : Nat) (c : Cursor) : Cursor :=
  match n with
  | 0 => c
  | n + 1 => c.bump.bumpBy n

/-- The cursor after the blanks and comments at it, if they are passed over. -/
def settle (c : Cursor) : Cursor :=
  if c.skipsBlanks then
    let (ahead, position) := skip false c.ahead c.position
    { c with ahead, position }
  else c

/-- The cursor after the next character, and after the blanks and comments behind that. -/
def advance (c : Cursor) : Cursor := c.bump.settle

/-- The character behind the next one. Where blanks are passed over it is the first one that is
neither a blank nor the sign of a comment, if there is such a one. -/
def peekPast (c : Cursor) : Option Char :=
  let behind := c.ahead.tail
  if c.skipsBlanks then firstMark false behind <|> behind.head? else behind.head?

/-- The characters of a kind at the cursor, with their places, and the cursor after them. -/
def collect (isWanted : Char → Bool) (c : Cursor) : List (Char × Position) × Cursor :=
  let (found, ahead, position) := collectFrom isWanted c.skipsBlanks false c.ahead c.position
  (found, { c with ahead, position })

/-- Whether a text lies ahead. -/
def sees (c : Cursor) (text : String) : Bool := text.toList.isPrefixOf c.ahead

end Cursor

end TrialMeter.Pattern

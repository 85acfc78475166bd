import TrialMeter.Pattern.Cursor
import TrialMeter.Pattern.Tree
import TrialMeter.Text.Natural

/-!
# Escapes

A backslash gives the characters after it another meaning. A sign after a backslash stands for
itself, some letters stand for control characters, for sets of characters or for places, and a
character can be given by its number in base sixteen: `\x41`, `\u0041`, `\U00000041` or, with any
number of digits, `\x{41}`.

## Main definitions

* `readEscape`: the atom that starts with the backslash at a cursor.
-/

namespace TrialMeter.Pattern

/-- The value of a digit in base sixteen. -/
def hexDigit? (c : Char) : Option Nat :=
  if 'a' ≤ c ∧ c ≤ 'f' then some (c.toNat - 'a'.toNat + 10)
  else if 'A' ≤ c ∧ c ≤ 'F' then some (c.toNat - 'A'.toNat + 10)
  else Text.digit? c

/-- The character whose number has the given digits in base sixteen, the first one foremost. -/
def hexChar? (digits : List Char) : Option Char :=
  let n := digits.foldl (fun n c => 16 * n + (hexDigit? c).getD 0) 0
  if n.isValidChar then some (Char.ofNat n) else none

/-- The next `n` characters, which are digits in base sixteen. -/
def readHexDigits (n : Nat) : Step (List Char) := fun c =>
  match n with
  | 0 => .ok ([], c)
  | n + 1 =>
    match c.next? with
    | none => Problem.raise .escapeCut c.here
    | some x =>
      if (hexDigit? x).isNone then Problem.raise .hexDigit c.nextSpan
      else do
        let (digits, c) ← readHexDigits n c.advance
        return (x :: digits, c)

/-- A character given by `n` digits. Two digits make a byte. -/
def readHexFixed (n : Nat) : Step Literal := fun c => do
  let (digits, after) ← readHexDigits n c
  let span := ⟨c.position, after.position⟩
  match hexChar? digits with
  | none => Problem.raise .hexNoCharacter span
  | some char => return (⟨span, char, n = 2⟩, after)

/-- A character given by digits between the braces that start at the cursor. -/
def readHexBraces : Step Literal := fun c => do
  let brace := c.position
  let first := c.nextSpan.stop
  let (digits, c) := c.advance.collect fun x => (hexDigit? x).isSome
  match c.next? with
  | none => Problem.raise .escapeCut ⟨brace, c.position⟩
  | some '\x7d' =>
    let last := c.position
    let c := c.advance
    if digits.isEmpty then Problem.raise .hexEmpty ⟨brace, c.position⟩
    else
      match hexChar? (digits.map Prod.fst) with
      | none => Problem.raise .hexNoCharacter ⟨first, last⟩
      | some char => return (⟨⟨first, c.position⟩, char, false⟩, c)
  | some _ => Problem.raise .hexDigit c.nextSpan

/-- A character given by its number, after the letter that announces `n` digits. -/
def readHex (n : Nat) : Step Literal := fun c =>
  let c := c.advance
  match c.next? with
  | none => Problem.raise .escapeCut c.here
  | some '\x7b' => readHexBraces c
  | some _ => readHexFixed n c

/-- A property, after the letter that announces it: one letter, or a name between braces. -/
def readProperty : Step Atom := fun c =>
  let c := c.advance
  let start := c.position
  match c.next? with
  | none => Problem.raise .escapeCut c.here
  | some '\x7b' =>
    let (name, c) := c.advance.collect (· ≠ '\x7d')
    if c.isDone then Problem.raise .escapeCut c.here
    else .ok (.property ⟨start, c.bump.position⟩ (name.map Prod.fst), c.bump)
  | some '\\' => Problem.raise .propertyEscape c.nextSpan
  | some x => .ok (.property ⟨start, c.advance.position⟩ [x], c.advance)

/-- Whether a character can stand in the name of a word boundary. -/
def isEdgeLetter (c : Char) : Bool := c.isAlpha || c = '-'

/-- The word boundaries that have names. -/
def wordEdges : List (String × Anchor) :=
  [("start", .wordStart), ("end", .wordEnd), ("start-half", .wordStartHalf),
    ("end-half", .wordEndHalf)]

/-- A word boundary that begins at `start`, after its letter: a name between braces says which one.
A brace without a name belongs to a repetition. -/
def readWordEdge (start : Position) : Step Atom := fun c =>
  let plain := Atom.anchor ⟨start, c.position⟩ .wordEdge
  if !c.sees "\x7b" then .ok (plain, c)
  else
    let brace := c.position
    let inside := c.advance
    match inside.next? with
    | none => Problem.raise .wordEdgeCut ⟨start, inside.position⟩
    | some x =>
      if !isEdgeLetter x then .ok (plain, c)
      else
        let (name, c) := inside.collect isEdgeLetter
        if !c.sees "\x7d" then Problem.raise .wordEdgeOpen ⟨brace, c.position⟩
        else
          match wordEdges.lookup (String.ofList (name.map Prod.fst)) with
          | none => Problem.raise .wordEdgeUnknown ⟨inside.position, c.position⟩
          | some edge => .ok (.anchor ⟨start, c.bump.position⟩ edge, c.bump)

/-- The sets of ASCII characters that are known by a letter. -/
def letterSet? : Char → Option Ranges
  | 'd' => some [(0x30, 0x39)]
  | 's' => some [(0x9, 0xd), (0x20, 0x20)]
  | 'w' => some [(0x30, 0x39), (0x41, 0x5a), (0x5f, 0x5f), (0x61, 0x7a)]
  | _ => none

/-- The control characters that are known by a letter. -/
def controlChar? : Char → Option Char
  | 'a' => some '\x07'
  | 'f' => some '\x0c'
  | 't' => some '\t'
  | 'n' => some '\n'
  | 'r' => some '\r'
  | 'v' => some '\x0b'
  | _ => none

/-- The places that are known by a sign or a letter. -/
def anchor? : Char → Option Anchor
  | 'A' => some .textStart
  | 'z' => some .textEnd
  | 'B' => some .notWordEdge
  | '<' => some .wordStart
  | '>' => some .wordEnd
  | _ => none

/-- Whether a backslash makes a character stand for itself. -/
def isPlainSign (c : Char) : Bool :=
  c.toNat < 128 && !c.isAlphanum && c ≠ '<' && c ≠ '>'

/-- The atom that starts with the backslash at the cursor. -/
def readEscape : Step Atom := fun c => do
  let start := c.position
  let c := c.bump
  match c.next? with
  | none => Problem.raise .escapeCut ⟨start, c.position⟩
  | some x =>
    let span := ⟨start, c.nextSpan.stop⟩
    if x.isDigit then Problem.raise .backreference span
    else
      match letterSet? x, letterSet? x.toLower with
      | some ranges, _ => return (.letters span ranges false, c.bump)
      | none, some ranges => return (.letters span ranges true, c.bump)
      | none, none =>
        if x = 'x' || x = 'u' || x = 'U' then
          let (l, c) ← readHex (if x = 'x' then 2 else if x = 'u' then 4 else 8) c
          return ((Atom.literal l).startingAt start, c)
        else if x = 'p' || x = 'P' then
          let (property, c) ← readProperty c
          return (property.startingAt start, c)
        else if x = 'b' then readWordEdge start c.bump
        else if isPlainSign x then return (.literal ⟨span, x, false⟩, c.bump)
        else
          match controlChar? x, anchor? x with
          | some char, _ => return (.literal ⟨span, char, false⟩, c.bump)
          | none, some a => return (.anchor span a, c.bump)
          | none, none => Problem.raise .escapeUnknown span

end TrialMeter.Pattern

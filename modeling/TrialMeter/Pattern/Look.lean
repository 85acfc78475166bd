/-!
# Places in a text

A text is searched as it is written, byte by byte. A place lies between two bytes, or at an end of
the text, and is told by these two neighbours. The words are those of ASCII: a byte of another
character is of no word, so that a place inside a character has no word around it.

## Main definitions

* `Look`: the kinds of places.
* `Look.holds`: whether a place is of a kind.
-/

namespace TrialMeter.Pattern

/-- A kind of places. -/
inductive Look where
  | textStart
  | textEnd
  | lineStart
  | lineEnd
  /-- The start of a line, where lines may end with a carriage return. -/
  | carriageStart
  | carriageEnd
  /-- Between a byte of a word and another one that is none. -/
  | wordEdge
  | notWordEdge
  | wordStart
  | wordEnd
  /-- After a byte that is of no word. -/
  | wordStartHalf
  /-- Before a byte that is of no word. -/
  | wordEndHalf
deriving DecidableEq, Repr

/-- The byte that ends a line. -/
def newline : Nat := 0x0a

/-- The byte that may stand before the end of a line. -/
def carriage : Nat := 0x0d

/-- Whether a byte is of a word: an ASCII letter, a digit or an underscore. No word goes past an end
of the text. -/
def isOfWord (byte : Option Nat) : Bool :=
  byte.any fun b =>
    (0x30 ≤ b && b ≤ 0x39) || (0x41 ≤ b && b ≤ 0x5a) || b = 0x5f || (0x61 ≤ b && b ≤ 0x7a)

/-- Whether a place between two bytes is of a kind. Beyond the text there is no byte. -/
def Look.holds (before next : Option Nat) : Look → Bool
  | textStart => before.isNone
  | textEnd => next.isNone
  | lineStart => before.isNone || before = some newline
  | lineEnd => next.isNone || next = some newline
  | carriageStart =>
    before.isNone || before = some newline || (before = some carriage && next ≠ some newline)
  | carriageEnd =>
    next.isNone || next = some carriage || (next = some newline && before ≠ some carriage)
  | wordEdge => isOfWord before != isOfWord next
  | notWordEdge => isOfWord before == isOfWord next
  | wordStart => !isOfWord before && isOfWord next
  | wordEnd => isOfWord before && !isOfWord next
  | wordStartHalf => !isOfWord before
  | wordEndHalf => !isOfWord next

end TrialMeter.Pattern

/-!
# Places in a text

A place lies between two characters of a text. It is known by the number of characters before it,
and by its line and column, which are counted from one. A span is the part of a text between two
places.

## Main definitions

* `Position`, `Position.after`: a place, and the one after the next character.
* `Span`, `Span.through`: a part of a text, and the part from its start to another place.
-/

namespace TrialMeter.Pattern

/-- A place in a text. -/
structure Position where
  offset : Nat := 0
  line : Nat := 1
  column : Nat := 1
deriving DecidableEq, Repr

/-- The place after a character. A line ends after its line feed. -/
def Position.after (p : Position) (c : Char) : Position :=
  if c = '\n' then ⟨p.offset + 1, p.line + 1, 1⟩ else ⟨p.offset + 1, p.line, p.column + 1⟩

/-- The part of a text from `start` to `stop`. -/
structure Span where
  start : Position
  stop : Position
deriving DecidableEq, Repr

namespace Span

/-- The part of a text from the start of a span to a place. -/
def through (s : Span) (stop : Position) : Span := ⟨s.start, stop⟩

/-- Whether a span starts and ends on the same line. -/
def isOnOneLine (s : Span) : Bool := s.start.line = s.stop.line

/-- Whether a span is listed before another one: the one that starts first, and of two that start
together the one that ends first. -/
def isBefore (s t : Span) : Bool :=
  s.start.offset < t.start.offset
    || (s.start.offset = t.start.offset && s.stop.offset ≤ t.stop.offset)

end Span

end TrialMeter.Pattern

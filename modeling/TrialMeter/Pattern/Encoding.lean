import TrialMeter.Pattern.CodeSet

/-!
# Characters as sequences of bytes

A character is written as one to four bytes: a first byte, and others that hold six bits each. A
range of characters is written by a few sequences of ranges of bytes, of which each stands for the
characters whose first byte lies in the first range, whose second byte lies in the second one, and
so on.

## Main definitions

* `encode`: the bytes of a text.
* `byteSequences`: the sequences for a set of characters.
-/

namespace TrialMeter.Pattern

/-- The bytes of a text. -/
def encode (text : List Char) : List Nat :=
  text.flatMap fun c => (String.utf8EncodeChar c).map UInt8.toNat

/-- Whether a byte is one after the first one of a character. -/
def isLater (byte : Nat) : Bool := 0x80 ≤ byte && byte < 0xc0

/-- The characters that are written with the same number of bytes: how many bytes follow the first
one, what the first one is beyond its share of the number, and the range. -/
def bands : List (Nat × Nat × Nat × Nat) :=
  [(0, 0x0, 0x0, 0x7f), (1, 0xc0, 0x80, 0x7ff), (2, 0xe0, 0x800, 0xd7ff), (2, 0xe0, 0xe000, 0xffff),
    (3, 0xf0, 0x10000, 0x10ffff)]

/-- How many numbers have `k` given digits in base 64 behind them. -/
def weight (k : Nat) : Nat :=
  match k with
  | 0 => 1
  | k + 1 => 64 * weight k

/-- The numbers from `low` to `high` as sequences of ranges of digits in base 64, with `k` digits
after the first one. The numbers that share the first digit with an end of the range stand apart
unless they are all there. -/
def digitSequences (k low high : Nat) : List Ranges :=
  match k with
  | 0 => [[(low, high)]]
  | k + 1 =>
    let w := weight (k + 1)
    let first := low / w
    let last := high / w
    let under (digit low high : Nat) : List Ranges :=
      (digitSequences k low high).map ((digit, digit) :: ·)
    if first = last then under first (low % w) (high % w)
    else
      let isCutBelow := low % w ≠ 0
      let isCutAbove := high % w ≠ w - 1
      let lowest := if isCutBelow then first + 1 else first
      let highest := if isCutAbove then last - 1 else last
      (if isCutBelow then under first (low % w) (w - 1) else [])
        ++ (if lowest ≤ highest then [(lowest, highest) :: List.replicate (k + 1) (0, 63)] else [])
        ++ if isCutAbove then under last 0 (high % w) else []

/-- What a byte after the first one is beyond its share of the number. -/
def laterMark : Nat := 0x80

/-- A range of bytes, each of which is a share of the number and a mark. -/
def marked (mark : Nat) (shares : Nat × Nat) : Nat × Nat := (shares.1 + mark, shares.2 + mark)

/-- The sequences of ranges of bytes for a set of characters. -/
def byteSequences (s : CodeSet) : List Ranges :=
  s.ranges.flatMap fun r =>
    bands.flatMap fun (k, mark, low, high) =>
      let low := max low r.1
      let high := min high r.2
      if high < low then []
      else
        (digitSequences k low high).map fun
          | [] => []
          | first :: later => marked mark first :: later.map (marked laterMark)

end TrialMeter.Pattern

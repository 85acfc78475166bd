/-!
# Words

A text is split into words at runs of white space. White space is the property of that name: the
five control characters from the tab to the carriage return, the space, the next-line control, the
no-break space, and the separators.

## Main definitions

* `Text.isBlank`: the white space characters.
* `Text.split`: what stands between the separators of a text, empty pieces included.
* `Text.words`: the pieces between blanks that are not empty.
* `Text.trim`: a text without the blanks at its ends.
-/

namespace TrialMeter.Text

/-- The code points of the white space characters. -/
def blanks : List Nat :=
  [0x9, 0xa, 0xb, 0xc, 0xd, 0x20, 0x85, 0xa0, 0x1680, 0x2000, 0x2001, 0x2002, 0x2003, 0x2004,
    0x2005, 0x2006, 0x2007, 0x2008, 0x2009, 0x200a, 0x2028, 0x2029, 0x202f, 0x205f, 0x3000]

/-- Whether a character is white space. -/
def isBlank (c : Char) : Bool := blanks.contains c.toNat

/-- What stands before, between and after the separators. There is one piece more than separators.
-/
def split (isSeparator : Char → Bool) : List Char → List (List Char)
  | [] => [[]]
  | c :: rest =>
    if isSeparator c then [] :: split isSeparator rest
    else match split isSeparator rest with
      | [] => [[c]]
      | piece :: more => (c :: piece) :: more

/-- The words of a text. -/
def words (s : String) : List String :=
  ((split isBlank s.toList).filter fun piece => !piece.isEmpty).map String.ofList

/-- A text without the blanks at its ends. -/
def trim (s : List Char) : List Char :=
  ((s.dropWhile isBlank).reverse.dropWhile isBlank).reverse

end TrialMeter.Text

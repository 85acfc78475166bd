import TrialMeter.Pattern.Cursor
import TrialMeter.Text.Natural

/-!
# Counted repetitions

A repetition may be counted between braces: `{2}` asks for two copies, `{2,}` for two or more, and
`{2,5}` for two to five. Blanks may stand around the numbers.

## Main definitions

* `Count`: what is asked of a repetition.
* `readCount`: the numbers between the braces at a cursor.
-/

namespace TrialMeter.Pattern

/-- The numbers of copies that may be asked for are those of 32 bits. -/
def countLimit : Nat := 4294967296

/-- The number at the cursor, with the blanks around it. That the number cannot be read is part of
the result, since it does not matter if the text has another problem. -/
def readNumber (c : Cursor) : Except Problem Nat × Cursor :=
  let (_, first) := c.collect Text.isBlank
  let (digits, last) := first.collect Char.isDigit
  let (_, after) := last.collect Text.isBlank
  let span := ⟨first.position, last.position⟩
  let number :=
    match Text.digits? (digits.map Prod.fst) with
    | none => Problem.raise .countEmpty span
    | some n => if n < countLimit then .ok n else Problem.raise .numberTooLarge span
  (number, after)

/-- What is asked of a repetition: the least and the greatest number of copies, and whether few are
preferred. -/
abbrev Count := Nat × Option Nat × Bool

/-- The question mark that may follow a repetition: whether there is one, which asks for few copies.
-/
def readFew (c : Cursor) : Bool × Cursor := if c.sees "?" then (true, c.bump) else (false, c)

/-- The numbers between the braces at the cursor, with the question mark that may follow. -/
def readCount : Step Count := fun c => do
  let start := c.position
  let cut {α : Type} (c : Cursor) : Except Problem α := Problem.raise .countOpen ⟨start, c.position⟩
  let c := c.advance
  if c.isDone then cut c
  else
    let (least, c) := readNumber c
    if c.isDone then cut c
    else
      let close (least : Nat) (most : Option Nat) (c : Cursor) : Except Problem (Count × Cursor) :=
        if !c.sees "\x7d" then cut c
        else
          let (few, c) := readFew c.advance
          if most.any (· < least) then Problem.raise .countOrder ⟨start, c.position⟩
          else .ok ((least, most, few), c)
      if c.sees "," then
        let c := c.advance
        if c.isDone then cut c
        else if c.sees "\x7d" then close (← least) none c
        else
          let least ← least
          let (most, c) := readNumber c
          close least (some (← most)) c
      else
        let count ← least
        close count (some count) c

end TrialMeter.Pattern

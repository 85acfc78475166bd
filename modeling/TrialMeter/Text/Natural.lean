/-!
# Numbers in text

A natural number is read from decimal digits, at least one, with any number of zeros in front and a
plus sign if one likes.

## Main definitions

* `Text.natural?`: the number that a text stands for.
* `Text.word64?`: the same, for numbers of at most 64 bits.
* `Text.integer?`: the same, with a sign.
-/

namespace TrialMeter.Text

/-- The value of a decimal digit. -/
def digit? (c : Char) : Option Nat :=
  if '0' ≤ c ∧ c ≤ '9' then some (c.toNat - '0'.toNat) else none

/-- The number with the digits of `value` followed by the given ones. -/
def appendDigits (value : Nat) : List Char → Option Nat
  | [] => some value
  | c :: rest => do appendDigits (10 * value + (← digit? c)) rest

/-- The number of a list of digits, which may not be empty. -/
def digits? : List Char → Option Nat
  | [] => none
  | digits => appendDigits 0 digits

/-- The number that a text stands for. -/
def natural? (s : String) : Option Nat :=
  match s.toList with
  | '+' :: digits => digits? digits
  | digits => digits? digits

/-- The number that a text stands for, if it fits in 64 bits. -/
def word64? (s : String) : Option Nat := (natural? s).filter (· < UInt64.size)

/-- The integer that a text stands for, with a minus sign in front when it is negative. -/
def integer? (s : String) : Option Int :=
  match s.toList with
  | '-' :: digits => (digits? digits).map fun n => -(n : Int)
  | _ => (natural? s).map fun n => (n : Int)

end TrialMeter.Text

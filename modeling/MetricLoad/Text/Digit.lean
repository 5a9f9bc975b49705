/-!
# Digits and whole numbers

Numbers in texts are written in ASCII digits, without blanks or separators.  A number with a radix
takes its digits from `0` to `f`, in either case, as far as the radix goes.
-/

namespace MetricLoad.Text

/-- The value of a decimal digit. -/
def digit? (c : Char) : Option Nat :=
  if '0' ≤ c ∧ c ≤ '9' then some (c.toNat - '0'.toNat) else none

/-- The value of a non-empty text of decimal digits. -/
def natural? : List Char → Option Nat
  | [] => none
  | s => s.foldl (fun acc c => acc.bind fun n => (digit? c).map fun d => 10 * n + d) (some 0)

/-- An unsigned number: decimal digits, with an optional plus sign before them. -/
def unsigned? : List Char → Option Nat
  | '+' :: digits => natural? digits
  | digits => natural? digits

/-- The value of a hexadecimal digit. -/
def hexDigit? (c : Char) : Option Nat :=
  if '0' ≤ c ∧ c ≤ '9' then some (c.toNat - 48)
  else if 'a' ≤ c ∧ c ≤ 'f' then some (c.toNat - 87)
  else if 'A' ≤ c ∧ c ≤ 'F' then some (c.toNat - 55)
  else none

/-- The value of a non-empty text of digits in a radix up to sixteen. -/
def radixNumber? (radix : Nat) : List Char → Option Nat
  | [] => none
  | s => s.foldl
      (fun acc c => acc.bind fun n => (hexDigit? c).bind fun d =>
        if d < radix then some (radix * n + d) else none)
      (some 0)

end MetricLoad.Text

import MetricLoad.Duration
import MetricLoad.Duration.Unit
import MetricLoad.Text.Blank
import MetricLoad.Text.Digit

/-!
# Durations as text

A duration text is one or more terms such as `1h`, `30 min` or `1.5s`; the duration is their sum.
Reading has two steps.  `terms?` splits the characters into terms and refuses every other text;
`sum?` adds the terms in exact arithmetic and refuses a fraction that is no whole number of its
scale as well as every intermediate result beyond 64 bits.  Blanks may stand around numbers and
units, and between the digits of a number.  The single digit `0` needs no unit.

Writing gives years, months, days, then `h`, `m`, `s`, `ms`, `us` and `ns`, leaving out what is
zero.
-/

namespace MetricLoad.Duration

open MetricLoad.Text

/-- A fraction `numerator / denominator`, the denominator being a power of ten. -/
structure Fraction where
  numerator : Nat
  denominator : Nat
  deriving DecidableEq, Repr

/-- One term of a duration text. -/
structure Term where
  whole : Nat
  fraction : Option Fraction
  unit : Unit
  deriving DecidableEq, Repr

/-- A number that fits 64 bits. -/
def fits? (n : Nat) : Option Nat :=
  if n < UInt64.size then some n else none

/-- Whether a character may be part of a unit's name. -/
def isUnitLetter (c : Char) : Bool :=
  ('a' ≤ c && c ≤ 'z') || ('A' ≤ c && c ≤ 'Z') || c == 'µ'

/-- Reads on after some digits of a number, skipping blanks, up to a letter, a point or the end. -/
def readWhole (acc : Nat) : List Char → Option (Nat × List Char)
  | [] => some (acc, [])
  | c :: rest =>
    match digit? c with
    | some d => (fits? (10 * acc + d)).bind fun n => readWhole n rest
    | none =>
      if isBlank c then readWhole acc rest
      else if isUnitLetter c || c == '.' then some (acc, c :: rest)
      else none

/-- Reads the digits behind a point, skipping blanks, up to a letter or the end. -/
def readFraction (acc : Fraction) : List Char → Option (Fraction × List Char)
  | [] => some (acc, [])
  | c :: rest =>
    match digit? c with
    | some d =>
      (fits? (10 * acc.denominator)).bind fun den =>
        (fits? (10 * acc.numerator + d)).bind fun num => readFraction ⟨num, den⟩ rest
    | none =>
      if isBlank c then readFraction acc rest
      else if isUnitLetter c then some (acc, c :: rest)
      else none

/-- Reads a fraction that may stand after the whole part; it needs at least one digit. -/
def readOptionalFraction : List Char → Option (Option Fraction × List Char)
  | '.' :: rest =>
    (readFraction ⟨0, 1⟩ rest).bind fun (fraction, rest) =>
      if fraction.denominator == 1 then none else some (some fraction, rest)
  | rest => some (none, rest)

/-- Reads a term from its first digit on. -/
def readTerm (first : Nat) (s : List Char) : Option (Term × List Char) :=
  (readWhole first s).bind fun (whole, s) =>
    (readOptionalFraction s).bind fun (fraction, s) =>
      (Unit.ofName? (String.ofList (s.takeWhile isUnitLetter))).map fun unit =>
        (⟨whole, fraction, unit⟩, s.dropWhile isUnitLetter)

/-- Splits a text into its terms.  Each term uses up at least one character, so the length of the
text bounds their number. -/
def termsWithin : Nat → List Char → Option (List Term)
  | 0, s => if (trimStart s).isEmpty then some [] else none
  | fuel + 1, s =>
    match trimStart s with
    | [] => some []
    | c :: rest =>
      (digit? c).bind fun first =>
        (readTerm first rest).bind fun (term, rest) =>
          (termsWithin fuel rest).map (term :: ·)

/-- The terms of a duration text; a text without terms is none. -/
def terms? (s : List Char) : Option (List Term) :=
  (termsWithin s.length s).bind fun terms => if terms.isEmpty then none else some terms

/-- Adds seconds and nanoseconds to a duration within 64 bits. -/
def addParts? (d : Duration) (seconds nanos : Nat) : Option Duration :=
  (fits? (d.nanos.val + nanos)).bind fun nanos =>
    (fits? (d.seconds.toNat + seconds + nanos / nanosPerSecond)).map fun seconds =>
      ⟨seconds.toUInt64, subSecond nanos⟩

/-- A fraction of a scale, when it is a whole number and the product fits 64 bits. -/
def Fraction.times? (f : Fraction) (scale : Nat) : Option Nat :=
  (fits? (f.numerator * scale)).bind fun product =>
    if product % f.denominator == 0 then some (product / f.denominator) else none

/-- Adds a term to a duration. -/
def addTerm? (d : Duration) (t : Term) : Option Duration :=
  (fits? (t.whole * t.unit.wholeSeconds)).bind fun seconds =>
    (fits? (t.whole * t.unit.partNanos)).bind fun nanos =>
      (addParts? d seconds nanos).bind fun d =>
        match t.fraction with
        | none => some d
        | some f =>
          match t.unit.fractionScale with
          | .none => none
          | .nanos perUnit => (f.times? perUnit).bind fun nanos => addParts? d 0 nanos
          | .seconds perUnit => (f.times? perUnit).bind fun seconds => addParts? d seconds 0

/-- The sum of some terms. -/
def sum? (terms : List Term) : Option Duration :=
  terms.foldl (fun acc t => acc.bind fun d => addTerm? d t) (some zero)

/-- The duration that a text denotes.  Only the text `0` may go without a unit. -/
def ofText? (s : String) : Option Duration :=
  if s == "0" then some zero else (terms? s.toList).bind sum?

/-- A count with its unit; nothing for zero. -/
def part (count : Nat) (unit : String) : List String :=
  if count == 0 then [] else [toString count ++ unit]

/-- A count with a unit that takes a plural ending; nothing for zero. -/
def pluralPart (count : Nat) (unit : String) : List String :=
  part count (if count > 1 then unit ++ "s" else unit)

/-- The non-zero parts of a duration, longest unit first. -/
def parts (d : Duration) : List String :=
  let seconds := d.seconds.toNat
  let inYear := seconds % 31557600
  let inMonth := inYear % 2630016
  let inDay := inMonth % 86400
  let nanos := d.nanos.val
  pluralPart (seconds / 31557600) "year" ++ pluralPart (inYear / 2630016) "month" ++
    pluralPart (inMonth / 86400) "day" ++ part (inDay / 3600) "h" ++
    part (inDay % 3600 / 60) "m" ++ part (inDay % 60) "s" ++ part (nanos / 1000000) "ms" ++
    part (nanos / 1000 % 1000) "us" ++ part (nanos % 1000) "ns"

/-- The text of a duration: its non-zero parts, or `0s`. -/
def text (d : Duration) : String :=
  if d.isZero then "0s" else " ".intercalate d.parts

end MetricLoad.Duration

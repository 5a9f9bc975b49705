import MetricLoad.Text.Blank
import MetricLoad.Text.Digit

/-!
# Escapes in patterns

A backslash gives punctuation its plain meaning and makes some letters stand for classes, positions
or characters by number.  What an escape may be depends on the modes in force: unless patterns are
about Unicode, a pattern must not match a part of a character, and the boundaries of words are only
known for ASCII.  Classes by property and references to groups are not supported.
-/

namespace MetricLoad.Pattern

/-- The modes that flags switch on and off, as far as they decide what a pattern may hold. -/
structure Modes where
  unicode : Bool := true
  ignoreCase : Bool := false
  /-- Blanks and comments are passed over. -/
  ignoreBlanks : Bool := false
  deriving DecidableEq, Repr

/-- The characters behind blanks and comments; a comment ends with its line.  The flag tells that a
comment has begun. -/
def skipGaps (inComment : Bool) : List Char → List Char
  | [] => []
  | c :: rest =>
    if inComment then skipGaps (c != '\n') rest
    else if Text.isBlank c then skipGaps false rest
    else if c == '#' then skipGaps true rest
    else c :: rest

/-- The characters behind what the modes pass over. -/
def Modes.skip (m : Modes) (s : List Char) : List Char :=
  if m.ignoreBlanks then skipGaps false s else s

theorem length_skipGaps_le (inComment : Bool) (s : List Char) :
    (skipGaps inComment s).length ≤ s.length := by
  induction s generalizing inComment with
  | nil => simp [skipGaps]
  | cons c rest ih =>
    simp only [skipGaps, List.length_cons]
    split
    · exact Nat.le_succ_of_le (ih _)
    · split
      · exact Nat.le_succ_of_le (ih _)
      · split
        · exact Nat.le_succ_of_le (ih _)
        · simp

/-- Nothing is added by passing over gaps. -/
theorem Modes.length_skip_le (m : Modes) (s : List Char) : (m.skip s).length ≤ s.length := by
  unfold Modes.skip
  split
  · exact length_skipGaps_le false s
  · exact Nat.le_refl _

/-- A single thing that a pattern asks for. -/
inductive Item
  /-- A character; the flag tells that it is written as a byte. -/
  | char (c : Char) (isByte : Bool)
  /-- A class of digits, blanks or word characters, or of all others. -/
  | charClass (negated : Bool)
  /-- A boundary of words, or its absence. -/
  | wordBoundary
  /-- The start or the end of the text. -/
  | textEnd
  deriving DecidableEq, Repr

namespace Item

/-- Whether an item may stand by itself under some modes. -/
def isAllowed (m : Modes) : Item → Bool
  | char c isByte => m.unicode || c.toNat < 0x80 || !(isByte || m.ignoreCase)
  | charClass negated => m.unicode || !negated
  | wordBoundary => !m.unicode
  | textEnd => true

/-- Whether an item may be a part of a class in brackets. -/
def isAllowedInClass (m : Modes) : Item → Bool
  | char c _ => m.unicode || c.toNat < 0x80
  | charClass negated => m.unicode || !negated
  | wordBoundary => false
  | textEnd => false

end Item

/-- The character with a number of so many hexadecimal digits, and the rest. -/
def numbered? (m : Modes) : Nat → List Char → List Char → Option (Char × List Char)
  | 0, digits, s =>
    (Text.radixNumber? 16 digits.reverse).bind fun n =>
      if n.isValidChar then some (Char.ofNat n, s) else none
  | count + 1, digits, s =>
    match m.skip s with
    | [] => none
    | c :: rest => if (Text.hexDigit? c).isSome then numbered? m count (c :: digits) rest else none

/-- Whether a character keeps its plain meaning behind a backslash. -/
def isEscapable (c : Char) : Bool :=
  c.toNat < 0x80 && !c.isAlphanum && c != '<' && c != '>'

/-- The item behind a backslash, and the rest. -/
def escape? (m : Modes) : List Char → Option (Item × List Char)
  | [] => none
  | c :: rest =>
    if isEscapable c then some (.char c false, rest)
    else match c with
      | 'd' | 's' | 'w' => some (.charClass false, rest)
      | 'D' | 'S' | 'W' => some (.charClass true, rest)
      | 'a' => some (.char '\x07' false, rest)
      | 'f' => some (.char '\x0c' false, rest)
      | 'n' => some (.char '\n' false, rest)
      | 'r' => some (.char '\r' false, rest)
      | 't' => some (.char '\t' false, rest)
      | 'v' => some (.char '\x0b' false, rest)
      | 'x' => (numbered? m 2 [] rest).map fun (c, rest) => (.char c true, rest)
      | 'u' => (numbered? m 4 [] rest).map fun (c, rest) => (.char c false, rest)
      | 'U' => (numbered? m 8 [] rest).map fun (c, rest) => (.char c false, rest)
      | 'A' | 'z' => some (.textEnd, rest)
      | 'b' | 'B' | '<' | '>' => some (.wordBoundary, rest)
      | _ => none

end MetricLoad.Pattern

import MetricLoad.Text.Utf8

/-!
# Parts of texts

A text is split behind a known beginning, at the last of some characters, or behind a number of
bytes.  What is split off and what is left always make up the whole.
-/

namespace MetricLoad.Text

/-- The text after `stem`, when the text begins with it. -/
def dropStem? {α : Type} [BEq α] (stem s : List α) : Option (List α) :=
  if stem.isPrefixOf s then some (s.drop stem.length) else none

/-- The texts before and after the last occurrence of `c`. -/
def splitLast? (c : Char) (s : List Char) : Option (List Char × List Char) :=
  let back := s.reverse
  let tail := back.takeWhile (· != c)
  match back.dropWhile (· != c) with
  | [] => none
  | _ :: head => some (head.reverse, tail.reverse)

/-- The characters that take the first `count` bytes of a text, and the rest; none when the text is
shorter or a character would be cut apart. -/
def splitBytes? : Nat → List Char → Option (List Char × List Char)
  | 0, s => some ([], s)
  | _ + 1, [] => none
  | count + 1, c :: rest =>
    if c.utf8Size ≤ count + 1 then
      (splitBytes? (count + 1 - c.utf8Size) rest).map fun (taken, rest) => (c :: taken, rest)
    else none
termination_by _ s => s.length

end MetricLoad.Text

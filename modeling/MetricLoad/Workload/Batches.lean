/-!
# Batches

A tick's series are sent in contiguous batches of a greatest size, in order.  A size of zero counts
as one, so every batch but the last is full and no batch is empty.
-/

namespace MetricLoad

/-- Splits a list into contiguous batches of at most `size` elements. -/
def splitBatches {α : Type} (size : Nat) (elements : List α) : List (List α) :=
  match elements with
  | [] => []
  | first :: rest =>
    (first :: rest.take (size - 1)) :: splitBatches size (rest.drop (size - 1))
termination_by elements.length
decreasing_by
  simp only [List.length_drop, List.length_cons]
  omega

end MetricLoad

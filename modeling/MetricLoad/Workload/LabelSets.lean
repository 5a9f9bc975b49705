import MetricLoad.Series
import MetricLoad.Workload.Description

/-!
# Expansion of a series template

The label sets of a template are the combinations of the values of its varying labels.  Labels are
applied in order, each of their values to every label set built so far, so the first varying label
changes fastest.  `labelSetAt?` finds the label set at an index without building the others: the
index is written in mixed radix with the first varying label as the least significant digit.

The number of label sets is counted modulo `2 ^ 64`.
-/

namespace MetricLoad

/-- The label with the value of the given number. -/
def VaryingLabel.label (v : VaryingLabel) (index : Nat) : Label :=
  ⟨v.name, v.valueStem ++ "-" ++ toString index⟩

/-- Appends each value of a varying label to each of some label sets. -/
def VaryingLabel.expand (v : VaryingLabel) (sets : List (List Label)) : List (List Label) :=
  (List.range v.variants.toNat).flatMap fun index => sets.map (· ++ [v.label index])

namespace SeriesTemplate

/-- The metric name and the static labels. -/
def baseLabels (s : SeriesTemplate) : List Label :=
  ⟨nameLabel, s.name⟩ :: s.staticLabels.entries.map fun (name, value) => ⟨name, value⟩

/-- All label sets of a template. -/
def labelSets (s : SeriesTemplate) : List (List Label) :=
  s.varyingLabels.foldl (fun sets v => v.expand sets) [s.baseLabels]

/-- The number of label sets, modulo `2 ^ 64`. -/
def labelSetCount (s : SeriesTemplate) : UInt64 :=
  s.varyingLabels.foldl (fun count v => count * v.variants) 1

/-- The varying labels of the label set at an index. -/
def digits : List VaryingLabel → Nat → List Label
  | [], _ => []
  | v :: rest, index =>
    v.label (index % v.variants.toNat) :: digits rest (index / v.variants.toNat)

/-- The label set at an index of `labelSets`. -/
def labelSetAt? (s : SeriesTemplate) (index : Nat) : Option (List Label) :=
  if index < s.labelSetCount.toNat then some (s.baseLabels ++ digits s.varyingLabels index)
  else none

end SeriesTemplate
end MetricLoad

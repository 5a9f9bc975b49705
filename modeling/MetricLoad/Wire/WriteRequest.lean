import MetricLoad.Series
import MetricLoad.Text.Utf8
import MetricLoad.Wire.Field

/-!
# Write requests

The body of a write request holds the series as nested messages.  Fields that hold zero or the empty
text are left out; minus zero counts as zero.  A reader passes over fields that it does not know,
takes the last one of a repeated single field, and appends repeated series, labels and samples, so
the concatenation of two bodies is a body that holds the series of both.
-/

namespace MetricLoad.Wire

/-- A text field, left out when empty. -/
def textField (number : Nat) (s : String) : List Field :=
  if s.isEmpty then [] else [⟨number, .counted (Text.bytes s)⟩]

/-- The bits of minus zero. -/
def minusZeroBits : UInt64 := 0x8000000000000000

/-- A field with the bits of a double, left out for both zeros. -/
def valueField (number : Nat) (bits : UInt64) : List Field :=
  if bits = 0 ∨ bits = minusZeroBits then [] else [⟨number, .fixed64 bits⟩]

/-- A field with a signed number in two's complement, left out for zero. -/
def numberField (number : Nat) (n : Int64) : List Field :=
  if n = 0 then [] else [⟨number, .varint n.toUInt64⟩]

/-- A nested message. -/
def messageField (number : Nat) (fields : List Field) : Field :=
  ⟨number, .counted (fieldBytes fields)⟩

/-- The fields of a label. -/
def labelFields (l : Label) : List Field :=
  textField 1 l.name ++ textField 2 l.value

/-- The fields of a sample. -/
def sampleFields (s : Sample) : List Field :=
  valueField 1 s.valueBits ++ numberField 2 s.timestamp

/-- The fields of a series. -/
def seriesFields (s : TimeSeries) : List Field :=
  s.labels.map (fun l => messageField 1 (labelFields l)) ++
    s.samples.map (fun p => messageField 2 (sampleFields p))

/-- The fields of a write request. -/
def requestFields (series : List TimeSeries) : List Field :=
  series.map fun s => messageField 1 (seriesFields s)

/-- The body of a write request. -/
def requestBytes (series : List TimeSeries) : List UInt8 :=
  fieldBytes (requestFields series)

/-- The content of a text field. -/
def Content.text? : Content → Option String
  | .counted bytes => Text.decode? bytes
  | _ => none

/-- The content of a nested message. -/
def Content.message? (limit : Nat) : Content → Option (List Field)
  | .counted bytes => readFields limit bytes
  | _ => none

/-- The bits of a double. -/
def Content.value? : Content → Option UInt64
  | .fixed64 bits => some bits
  | _ => none

/-- A signed number. -/
def Content.number? : Content → Option Int64
  | .varint value => some value.toInt64
  | _ => none

/-- A label with a field read into it. -/
def mergeLabel (l : Label) (f : Field) : Option Label :=
  match f.number with
  | 1 => f.content.text?.map fun s => { l with name := s }
  | 2 => f.content.text?.map fun s => { l with value := s }
  | _ => some l

/-- A sample with a field read into it. -/
def mergeSample (p : Sample) (f : Field) : Option Sample :=
  match f.number with
  | 1 => f.content.value?.map fun bits => { p with valueBits := bits }
  | 2 => f.content.number?.map fun n => { p with timestamp := n }
  | _ => some p

/-- The levels of fields allowed inside the groups of a body. -/
def groupLimit : Nat := 100

/-- A series with a field read into it. -/
def mergeSeries (s : TimeSeries) (f : Field) : Option TimeSeries :=
  match f.number with
  | 1 => (f.content.message? (groupLimit - 2)).bind fun fields =>
      (fields.foldlM mergeLabel ⟨"", ""⟩).map fun l => { s with labels := s.labels ++ [l] }
  | 2 => (f.content.message? (groupLimit - 2)).bind fun fields =>
      (fields.foldlM mergeSample ⟨0, 0⟩).map fun p => { s with samples := s.samples ++ [p] }
  | _ => some s

/-- Some series with a field of the request read into them. -/
def mergeRequest (series : List TimeSeries) (f : Field) : Option (List TimeSeries) :=
  match f.number with
  | 1 => (f.content.message? (groupLimit - 1)).bind fun fields =>
      (fields.foldlM mergeSeries ⟨[], []⟩).map fun s => series ++ [s]
  | _ => some series

/-- The series of a body. -/
def readRequest (bytes : List UInt8) : Option (List TimeSeries) :=
  (readFields groupLimit bytes).bind fun fields => fields.foldlM mergeRequest []

end MetricLoad.Wire

import MetricLoad.Wire.Body
import MetricLoad.Proofs.Wire.Snappy
import MetricLoad.Proofs.Wire.WriteRequest
import Mathlib

/-!
# Bodies are read back

What is written as the body of a push request is read back as it was, up to minus zero.  This does
not depend on how the compressor divides its input: any compressed form of the request will do.  A
content that can be compressed is short enough for its fields to be counted.
-/

namespace MetricLoad.Wire

theorem decodeBody_of_decompress {series : List TimeSeries} {body : List UInt8}
    (h : Snappy.decompress body = some (requestBytes series)) :
    decodeBody body = .ok (series.map TimeSeries.readBack) := by
  have hlength : (requestBytes series).length < 2 ^ 64 :=
    Nat.lt_trans (Snappy.length_lt_of_decompress h) (by decide)
  simp only [decodeBody, h, readRequest_requestBytes hlength]

/-- A body that was written is read back as the series in it, where minus zero has become zero, and
so is every other compressed form of the same request. -/
theorem decodeBody_reads_series (series : List TimeSeries) :
    (∀ body, encodeBody series = some body →
      decodeBody body = .ok (series.map TimeSeries.readBack)) ∧
    (∀ body, Snappy.decompress body = some (requestBytes series) →
      decodeBody body = .ok (series.map TimeSeries.readBack)) := by
  constructor
  · intro body hencode
    exact decodeBody_of_decompress (Snappy.decompress_compress hencode)
  · intro body hdecompress
    exact decodeBody_of_decompress hdecompress

/-- The same series twice, and one without labels and samples.  A text is empty, a time negative,
and of the values one is minus zero and the other a NaN with a payload. -/
def repeatedSeries : List TimeSeries :=
  let s : TimeSeries := ⟨[⟨"é", ""⟩, ⟨"", ""⟩], [⟨minusZeroBits, -1⟩, ⟨0x7FF0000000000001, 0⟩]⟩
  [s, s, ⟨[], []⟩]

/-- A compressed form in which the second series is a copy of the first. -/
def copiedBody : List UInt8 :=
  [70, 132, 10, 32, 10, 4, 10, 2, 195, 169, 10, 0, 18, 11, 16, 255, 255, 255, 255, 255, 255, 255,
    255, 255, 1, 18, 9, 9, 1, 0, 0, 0, 0, 0, 240, 127, 134, 34, 0, 4, 10, 0]

theorem decodeBody_reads_series_repeated :
    let s : TimeSeries := ⟨[⟨"é", ""⟩, ⟨"", ""⟩], [⟨0, -1⟩, ⟨0x7FF0000000000001, 0⟩]⟩
    (∃ body, encodeBody repeatedSeries = some body ∧ decodeBody body = .ok [s, s, ⟨[], []⟩]) ∧
    decodeBody copiedBody = .ok [s, s, ⟨[], []⟩] := by
  have hlength : (requestBytes repeatedSeries).length ≤ Snappy.maxLength := by
    have hseventy : (requestBytes repeatedSeries).length = 70 := by cbv
    rw [hseventy]
    decide
  have hcopied : Snappy.decompress copiedBody = some (requestBytes repeatedSeries) := by cbv
  have hread := decodeBody_reads_series repeatedSeries
  refine ⟨⟨_, if_pos hlength, ?_⟩, ?_⟩
  · exact hread.1 _ (if_pos hlength)
  · exact hread.2 _ hcopied

end MetricLoad.Wire

import MetricLoad.Wire.WriteRequest
import MetricLoad.Proofs.Text.Utf8
import MetricLoad.Proofs.Wire.Field

/-!
# Write requests are read back

A field that was left out leaves the value with which its reader begins, so it appears again.  Zero
is such a value, but minus zero is left out with it; that is the only thing a write request does not
tell.

The fields of a nested message are read back from the content of its field, so each level needs only
that the fields of its own message are put together to what was taken apart.  Repeated fields are
appended in order.  That holds for labels, samples and series by the same argument.
-/

namespace MetricLoad

/-- The sample that is read where this one was written: minus zero becomes zero. -/
def Sample.readBack (p : Sample) : Sample :=
  { p with valueBits := if p.valueBits = Wire.minusZeroBits then 0 else p.valueBits }

/-- The series that is read where this one was written. -/
def TimeSeries.readBack (s : TimeSeries) : TimeSeries :=
  { s with samples := s.samples.map Sample.readBack }

end MetricLoad

namespace MetricLoad.Wire

/-! ## Nested messages -/

/-- Fields of a body can be written if the body is not too long.  The messages use two numbers. -/
theorem fits_of_mem {fields : List Field} {f : Field} (hf : f ∈ fields)
    (hnumber : f.number = 1 ∨ f.number = 2) (hlength : (fieldBytes fields).length < 2 ^ 64) :
    f.Fits where
  number_pos := by omega
  number_lt := by omega
  length_lt _ hcontent := Nat.lt_of_le_of_lt (length_counted_le hf hcontent) hlength

theorem length_message_le {fields inner : List Field} {number : Nat}
    (h : messageField number inner ∈ fields) :
    (fieldBytes inner).length ≤ (fieldBytes fields).length :=
  length_counted_le h rfl

theorem readFields_of_numbers {fields : List Field}
    (hnumbers : ∀ f ∈ fields, f.number = 1 ∨ f.number = 2)
    (hlength : (fieldBytes fields).length < 2 ^ 64) (limit : Nat) :
    readFields limit (fieldBytes fields) = some fields :=
  readFields_fieldBytes (fun f hf => fits_of_mem hf (hnumbers f hf) hlength) limit

theorem message?_messageField {fields : List Field}
    (hnumbers : ∀ f ∈ fields, f.number = 1 ∨ f.number = 2)
    (hlength : (fieldBytes fields).length < 2 ^ 64) (number limit : Nat) :
    (messageField number fields).content.message? limit = some fields :=
  readFields_of_numbers hnumbers hlength limit

/-- Repeated fields are collected one after the other if each of them adds its own value. -/
theorem foldlM_map_of_collects {α β σ : Type} {merge : σ → Field → Option σ} {field : α → Field}
    {xs : List α} (value : α → β) (collected : List β → σ)
    (hstep : ∀ x ∈ xs, ∀ done,
      merge (collected done) (field x) = some (collected (done ++ [value x]))) (done : List β) :
    (xs.map field).foldlM merge (collected done) = some (collected (done ++ xs.map value)) := by
  -- The values are appended at the end, so those collected so far stay in front.
  induction xs generalizing done with
  | nil =>
    rw [List.map_nil, List.map_nil, List.append_nil]
    rfl
  | cons x rest ih =>
    have hrest := ih fun y hy => hstep y (List.mem_cons_of_mem x hy)
    rw [List.map_cons, List.foldlM_cons, hstep x List.mem_cons_self]
    show (rest.map field).foldlM merge (collected (done ++ [value x])) = _
    rw [hrest, List.append_assoc, List.map_cons, List.singleton_append]

/-! ## Labels -/

theorem number_of_mem_labelFields {l : Label} {f : Field} (hf : f ∈ labelFields l) :
    f.number = 1 ∨ f.number = 2 := by
  unfold labelFields textField at hf
  grind

/-- A text is put in its place, also the empty one if the place is empty. -/
theorem foldlM_textField {number : Nat} (place : String → Label) (s : String)
    (hplace : ∀ t, mergeLabel (place "") ⟨number, .counted (Text.bytes t)⟩ = some (place t)) :
    (textField number s).foldlM mergeLabel (place "") = some (place s) := by
  unfold textField
  split
  · rename_i hempty
    rw [String.isEmpty_iff.1 hempty]
    rfl
  · rw [List.foldlM_cons, hplace]
    rfl

theorem foldlM_labelFields (l : Label) :
    (labelFields l).foldlM mergeLabel ⟨"", ""⟩ = some l := by
  have hname : (textField 1 l.name).foldlM mergeLabel ⟨"", ""⟩ = some ⟨l.name, ""⟩ := by
    apply foldlM_textField (Label.mk · "")
    intro t
    simp [mergeLabel, Content.text?]
  have hvalue : (textField 2 l.value).foldlM mergeLabel ⟨l.name, ""⟩ = some l := by
    apply foldlM_textField (Label.mk l.name)
    intro t
    simp [mergeLabel, Content.text?]
  rw [labelFields, List.foldlM_append, hname]
  exact hvalue

/-! ## Samples -/

theorem number_of_mem_sampleFields {p : Sample} {f : Field} (hf : f ∈ sampleFields p) :
    f.number = 1 ∨ f.number = 2 := by
  unfold sampleFields valueField numberField at hf
  grind

theorem foldlM_sampleFields (p : Sample) :
    (sampleFields p).foldlM mergeSample ⟨0, 0⟩ = some p.readBack := by
  have hvalue : (valueField 1 p.valueBits).foldlM mergeSample ⟨0, 0⟩ =
      some ⟨p.readBack.valueBits, 0⟩ := by
    unfold valueField
    split
    · -- Both zeros are left out, so the reader keeps its own zero.
      rename_i hzero
      have hbits : p.readBack.valueBits = 0 := by
        unfold Sample.readBack
        grind
      rw [hbits]
      rfl
    · rename_i hwritten
      have hbits : p.readBack.valueBits = p.valueBits := if_neg (not_or.1 hwritten).2
      rw [hbits]
      rfl
  have htimestamp : (numberField 2 p.timestamp).foldlM mergeSample ⟨p.readBack.valueBits, 0⟩ =
      some ⟨p.readBack.valueBits, p.timestamp⟩ := by
    unfold numberField
    split
    · rename_i hzero
      rw [hzero]
      rfl
    · rw [List.foldlM_cons, mergeSample]
      simp [Content.number?]
  rw [sampleFields, List.foldlM_append, hvalue]
  exact htimestamp

/-! ## Series -/

theorem number_of_mem_seriesFields {s : TimeSeries} {f : Field} (hf : f ∈ seriesFields s) :
    f.number = 1 ∨ f.number = 2 := by
  unfold seriesFields messageField at hf
  grind

theorem mergeSeries_label {l : Label} (hlength : (fieldBytes (labelFields l)).length < 2 ^ 64)
    (s : TimeSeries) :
    mergeSeries s (messageField 1 (labelFields l)) = some { s with labels := s.labels ++ [l] } := by
  have hmessage := message?_messageField (fun _ => number_of_mem_labelFields) hlength 1
  show ((messageField 1 (labelFields l)).content.message? (groupLimit - 2)).bind _ = _
  rw [hmessage, Option.bind_some, foldlM_labelFields, Option.map_some]

theorem mergeSeries_sample {p : Sample} (hlength : (fieldBytes (sampleFields p)).length < 2 ^ 64)
    (s : TimeSeries) :
    mergeSeries s (messageField 2 (sampleFields p)) =
      some { s with samples := s.samples ++ [p.readBack] } := by
  have hmessage := message?_messageField (fun _ => number_of_mem_sampleFields) hlength 2
  show ((messageField 2 (sampleFields p)).content.message? (groupLimit - 2)).bind _ = _
  rw [hmessage, Option.bind_some, foldlM_sampleFields, Option.map_some]

theorem foldlM_seriesFields {s : TimeSeries}
    (hlength : (fieldBytes (seriesFields s)).length < 2 ^ 64) :
    (seriesFields s).foldlM mergeSeries ⟨[], []⟩ = some s.readBack := by
  -- Each level is shorter than the series, so it can be read if the series can.
  have hlabel (l : Label) (hl : l ∈ s.labels) (done : List Label) :
      mergeSeries ⟨done, []⟩ (messageField 1 (labelFields l)) = some ⟨done ++ [id l], []⟩ := by
    have hmem : messageField 1 (labelFields l) ∈ seriesFields s :=
      List.mem_append_left _ (List.mem_map_of_mem hl)
    exact mergeSeries_label (Nat.lt_of_le_of_lt (length_message_le hmem) hlength) _
  have hsample (p : Sample) (hp : p ∈ s.samples) (done : List Sample) :
      mergeSeries ⟨s.labels, done⟩ (messageField 2 (sampleFields p)) =
        some ⟨s.labels, done ++ [p.readBack]⟩ := by
    have hmem : messageField 2 (sampleFields p) ∈ seriesFields s :=
      List.mem_append_right _ (List.mem_map_of_mem hp)
    exact mergeSeries_sample (Nat.lt_of_le_of_lt (length_message_le hmem) hlength) _
  have hlabels := foldlM_map_of_collects id (TimeSeries.mk · []) hlabel []
  have hsamples := foldlM_map_of_collects Sample.readBack (TimeSeries.mk s.labels) hsample []
  rw [List.map_id, List.nil_append] at hlabels
  rw [seriesFields, List.foldlM_append, hlabels]
  exact hsamples

/-! ## Requests -/

theorem number_of_mem_requestFields {series : List TimeSeries} {f : Field}
    (hf : f ∈ requestFields series) : f.number = 1 ∨ f.number = 2 := by
  obtain ⟨s, -, rfl⟩ := List.mem_map.1 hf
  exact .inl rfl

theorem mergeRequest_series {s : TimeSeries}
    (hlength : (fieldBytes (seriesFields s)).length < 2 ^ 64) (series : List TimeSeries) :
    mergeRequest series (messageField 1 (seriesFields s)) = some (series ++ [s.readBack]) := by
  have hmessage := message?_messageField (fun _ => number_of_mem_seriesFields) hlength 1
  show ((messageField 1 (seriesFields s)).content.message? (groupLimit - 1)).bind _ = _
  rw [hmessage, Option.bind_some, foldlM_seriesFields hlength, Option.map_some]

/-- The series of a write request are read back in order. -/
theorem readRequest_requestBytes {series : List TimeSeries}
    (hlength : (requestBytes series).length < 2 ^ 64) :
    readRequest (requestBytes series) = some (series.map TimeSeries.readBack) := by
  have hfields := readFields_of_numbers (fun _ => number_of_mem_requestFields) hlength groupLimit
  have hone (s : TimeSeries) (hs : s ∈ series) (done : List TimeSeries) :
      mergeRequest done (messageField 1 (seriesFields s)) = some (done ++ [s.readBack]) := by
    have hmem : messageField 1 (seriesFields s) ∈ requestFields series := List.mem_map_of_mem hs
    exact mergeRequest_series (Nat.lt_of_le_of_lt (length_message_le hmem) hlength) done
  have hseries := foldlM_map_of_collects TimeSeries.readBack id hone []
  rw [readRequest, requestBytes, hfields, Option.bind_some]
  exact hseries

end MetricLoad.Wire

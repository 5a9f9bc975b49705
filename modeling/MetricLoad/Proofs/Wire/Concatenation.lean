import MetricLoad.Proofs.Wire.Field
import MetricLoad.Proofs.Wire.Body
import MetricLoad.Proofs.Workload.Batches
import Mathlib.Data.List.Basic

/-!
# Bodies one behind the other

Every reader of fields takes its bytes from the front and decides by these alone: whatever follows,
it reads the same and leaves it behind the rest.  That holds for all bytes that are accepted, not
just for those that a writer would choose: lengths that are not in their shortest form, fields that
nobody knows, groups inside of groups.  A body that can be read therefore has the same fields when
another body follows it, and reading goes on with the fields of that one.

The series of a request are appended in the order of its fields, so two bodies one behind the other
hold the series of the first and then those of the second.
-/

namespace MetricLoad.Wire

/-- A reader decides by the bytes that it takes: it reads the same whatever follows them, and leaves
that behind the rest. -/
structure ReadsPrefix {α : Type} (read : List UInt8 → Option (α × List UInt8)) : Prop where
  append : ∀ {bytes rest : List UInt8} {value : α}, read bytes = some (value, rest) →
    ∀ more, read (bytes ++ more) = some (value, rest ++ more)

/-! ## Readers -/

section Readers

variable {α β : Type} {read : List UInt8 → Option (α × List UInt8)}

theorem ReadsPrefix.map (h : ReadsPrefix read) (f : α → β) :
    ReadsPrefix fun bytes => (read bytes).map fun (value, rest) => (f value, rest) := by
  constructor
  intro bytes rest value hread more
  obtain ⟨⟨taken, behind⟩, htaken, heq⟩ := Option.map_eq_some_iff.1 hread
  cases heq
  simp [h.append htaken]

theorem ReadsPrefix.bind (h : ReadsPrefix read)
    {next : α × List UInt8 → Option (β × List UInt8)}
    (hnext : ∀ value, ReadsPrefix fun rest => next (value, rest)) :
    ReadsPrefix fun bytes => (read bytes).bind next := by
  constructor
  intro bytes rest value hread more
  obtain ⟨⟨taken, behind⟩, htaken, hrest⟩ := Option.bind_eq_some_iff.1 hread
  simp [h.append htaken, (hnext taken).append hrest]

end Readers

theorem readsPrefix_readVarintWithin (lastBound : UInt8) (left : Nat) :
    ReadsPrefix (readVarintWithin lastBound left) := by
  induction left with
  | zero => exact ⟨fun h => nomatch h⟩
  | succ left ih =>
    constructor
    intro bytes rest n h more
    rcases bytes with _ | ⟨byte, tail⟩
    · cases h
    · rw [List.cons_append]
      rw [readVarintWithin] at h ⊢
      split at h
      · -- The last byte of the number; what follows was not looked at.
        rename_i hsmall
        split at h
        · cases h
        · rename_i hfits
          cases h
          rw [if_pos hsmall, if_neg hfits]
      · rename_i hlarge
        rw [if_neg hlarge]
        exact (ih.map fun high => byte.toNat % 128 + 128 * high).append h more

theorem readsPrefix_readVarint : ReadsPrefix readVarint :=
  readsPrefix_readVarintWithin 2 10

theorem readsPrefix_takeBytes (count : Nat) : ReadsPrefix (takeBytes count) := by
  constructor
  intro bytes rest taken h more
  unfold takeBytes at h ⊢
  split at h
  · rename_i hle
    cases h
    have hmore : count ≤ (bytes ++ more).length := by
      simp only [List.length_append]
      omega
    rw [if_pos hmore, List.take_append_of_le_length hle, List.drop_append_of_le_length hle]
  · cases h

theorem readsPrefix_readKey : ReadsPrefix readKey := by
  apply readsPrefix_readVarint.bind
  intro key
  constructor
  intro bytes rest value h more
  simp only at h ⊢
  split at h
  · rename_i hsize
    obtain ⟨type, htype, heq⟩ := Option.map_eq_some_iff.1 h
    cases heq
    rw [if_pos hsize, htype, Option.map_some]
  · cases h

theorem readsPrefix_readPlain (type : WireType) : ReadsPrefix (readPlain type) := by
  cases type with
  | varint => exact readsPrefix_readVarint.map fun n => Content.varint n.toUInt64
  | fixed64 =>
    exact (readsPrefix_takeBytes 8).map fun taken => Content.fixed64 (littleEndian taken).toUInt64
  | counted =>
    exact readsPrefix_readVarint.bind fun count => (readsPrefix_takeBytes count).map Content.counted
  | fixed32 =>
    exact (readsPrefix_takeBytes 4).map fun taken => Content.fixed32 (littleEndian taken).toUInt32
  | groupStart => exact ⟨fun h => nomatch h⟩
  | groupEnd => exact ⟨fun h => nomatch h⟩

/-! ## Groups and fields -/

/-- The end of the open groups is found at the same place whatever follows it. -/
theorem skipGroups_append {limit : Nat} {opened : List Nat} {bytes rest : List UInt8}
    (h : skipGroups limit opened bytes = some rest) (more : List UInt8) :
    skipGroups limit opened (bytes ++ more) = some (rest ++ more) := by
  fun_induction skipGroups limit opened bytes with
  | case1 bytes =>
    cases h
    rw [skipGroups]
  | case2 => cases h
  | case3 bytes innermost outer rest' hkey ih =>
    rw [skipGroups_groupEnd (readsPrefix_readKey.append hkey more)]
    exact ih h
  | case4 => cases h
  | case5 bytes innermost outer number rest' hkey hlt ih =>
    rw [skipGroups_groupStart (readsPrefix_readKey.append hkey more) hlt]
    exact ih h
  | case6 => cases h
  | case7 => cases h
  | case8 bytes innermost outer number type rest' _ _ hkey hlt content rest'' hplain ih =>
    rw [skipGroups_plain (readsPrefix_readKey.append hkey more)
      ((readsPrefix_readPlain type).append hplain more) hlt]
    exact ih h
  | case9 => cases h

theorem readsPrefix_readField (limit : Nat) : ReadsPrefix (readField limit) := by
  apply readsPrefix_readKey.bind
  rintro ⟨number, type⟩
  cases type with
  | groupStart =>
    constructor
    intro bytes rest field h more
    obtain ⟨behind, hskip, heq⟩ := Option.map_eq_some_iff.1 h
    cases heq
    simp [skipGroups_append hskip more]
  | _ => exact (readsPrefix_readPlain _).map (Field.mk number)

/-- The fields of a body that another one follows are its own and then those of the other. -/
theorem readFields_append {limit : Nat} {a b : List UInt8} {fields : List Field}
    (h : readFields limit a = some fields) :
    readFields limit (a ++ b) = (readFields limit b).map (fields ++ ·) := by
  fun_induction readFields limit a generalizing fields with
  | case1 =>
    cases h
    simp
  | case2 => cases h
  | case3 byte tail field rest hfield ih =>
    obtain ⟨later, hlater, rfl⟩ := Option.map_eq_some_iff.1 h
    rw [readFields_of_readField ((readsPrefix_readField limit).append hfield b), ih hlater,
      Option.map_map]
    rfl

/-! ## Requests -/

/-- Fields are read into series behind those that are there already. -/
theorem mergeRequest_append (done series : List TimeSeries) (f : Field) :
    mergeRequest (done ++ series) f = (mergeRequest series f).map (done ++ ·) := by
  unfold mergeRequest
  split
  · cases f.content.message? (groupLimit - 1) with
    | none => rfl
    | some fields => simp [Function.comp_def]
  · rfl

theorem foldlM_mergeRequest_append (fields : List Field) (done series : List TimeSeries) :
    fields.foldlM mergeRequest (done ++ series) =
      (fields.foldlM mergeRequest series).map (done ++ ·) := by
  induction fields generalizing series with
  | nil => rfl
  | cons f rest ih =>
    rw [List.foldlM_cons, List.foldlM_cons, mergeRequest_append]
    cases mergeRequest series f with
    | none => rfl
    | some next => exact ih next

theorem readRequest_append {a : List UInt8} {first : List TimeSeries}
    (h : readRequest a = some first) (b : List UInt8) :
    readRequest (a ++ b) = (readRequest b).map (first ++ ·) := by
  obtain ⟨fields, hfields, hfirst⟩ := Option.bind_eq_some_iff.1 h
  rw [readRequest, readFields_append hfields, readRequest]
  cases readFields groupLimit b with
  | none => rfl
  | some later =>
    -- The second body goes on behind the series of the first.
    show (fields ++ later).foldlM mergeRequest [] = (later.foldlM mergeRequest []).map (first ++ ·)
    rw [List.foldlM_append, hfirst, ← foldlM_mergeRequest_append, List.append_nil]
    rfl

theorem requestBytes_append (series others : List TimeSeries) :
    requestBytes (series ++ others) = requestBytes series ++ requestBytes others := by
  simp [requestBytes, fieldBytes, requestFields]

/-- The bodies of some batches one behind the other are the body of all their series. -/
theorem flatMap_requestBytes (batches : List (List TimeSeries)) :
    batches.flatMap requestBytes = requestBytes batches.flatten := by
  induction batches with
  | nil => rfl
  | cons batch later ih =>
    rw [List.flatMap_cons, ih, List.flatten_cons, requestBytes_append]

theorem decodeBody_eq {body bytes : List UInt8} (h : Snappy.decompress body = some bytes) :
    decodeBody body = (readRequest bytes).elim (.error .notARequest) .ok := by
  simp only [decodeBody, h]
  cases readRequest bytes <;> rfl

/-- A body that can be read may be followed by any other: both are read if the other can be, and
their series come one after the other.  So the bodies of the batches of some series, one behind the
other, are read back as these series. -/
theorem joined_bodies_are_read_in_turn :
    (∀ (a b : List UInt8) (first : List TimeSeries), readRequest a = some first →
      readRequest (a ++ b) = (readRequest b).map (first ++ ·)) ∧
    (∀ (a b bodyA bodyB body : List UInt8) (first : List TimeSeries),
      Snappy.decompress bodyA = some a → Snappy.decompress bodyB = some b →
      Snappy.decompress body = some (a ++ b) → decodeBody bodyA = .ok first →
      decodeBody body = (decodeBody bodyB).map (first ++ ·)) ∧
    (∀ (size : Nat) (series : List TimeSeries) (body : List UInt8),
      Snappy.decompress body = some ((splitBatches size series).flatMap requestBytes) →
      decodeBody body = .ok (series.map TimeSeries.readBack)) := by
  refine ⟨fun a b first h => readRequest_append h b, ?_, ?_⟩
  · intro a b bodyA bodyB body first hA hB hboth hfirst
    have hread : readRequest a = some first := by
      rw [decodeBody_eq hA] at hfirst
      cases h : readRequest a with
      | none => simp [h] at hfirst
      | some series => simpa [h] using hfirst
    rw [decodeBody_eq hboth, decodeBody_eq hB, readRequest_append hread]
    cases readRequest b <;> rfl
  · intro size series body h
    apply decodeBody_of_decompress
    rw [h, flatMap_requestBytes, (isBatching_splitBatches size series).flatten_eq]

/-- A body that no writer makes: the length of its series is not in the shortest form, a name and a
time stand there twice, and behind the series come an unknown field and a group in a group. -/
def irregularBody : List UInt8 :=
  [0x0A, 0x93, 0x00,
    0x0A, 0x09, 0x0A, 0x01, 0x61, 0x0A, 0x01, 0x62, 0x12, 0x01, 0x76,
    0x12, 0x06, 0x10, 0x05, 0x10, 0x87, 0x80, 0x00,
    0x78, 0x01,
    0x13, 0x1B, 0x1C, 0x14]

theorem readRequest_irregularBody :
    readRequest irregularBody = some [⟨[⟨"b", "v"⟩], [⟨0, 7⟩]⟩] := by
  have hseries : readField groupLimit irregularBody =
      some (⟨1, .counted ((irregularBody.drop 3).take 19)⟩, irregularBody.drop 22) := rfl
  have hunknown : readField groupLimit (irregularBody.drop 22) =
      some (⟨15, .varint 1⟩, irregularBody.drop 24) := rfl
  have hgroup : readField groupLimit (irregularBody.drop 24) = some (⟨2, .group⟩, []) := by
    cbv
  have hfields : readFields groupLimit irregularBody =
      some [⟨1, .counted ((irregularBody.drop 3).take 19)⟩, ⟨15, .varint 1⟩, ⟨2, .group⟩] := by
    rw [readFields_of_readField hseries, readFields_of_readField hunknown,
      readFields_of_readField hgroup, readFields]
    rfl
  rw [readRequest, hfields]
  cbv

theorem joined_bodies_are_read_in_turn_irregular :
    let series : List TimeSeries := [⟨[⟨"b", "v"⟩], [⟨0, 7⟩]⟩]
    let more : List UInt8 := [0x0A, 0x00]
    readRequest (irregularBody ++ more) = some (series ++ [⟨[], []⟩]) ∧
      (∃ body, Snappy.compress (irregularBody ++ more) = some body ∧
        decodeBody body = .ok (series ++ [⟨[], []⟩])) ∧
      ∃ body, Snappy.compress ((splitBatches 1 (series ++ series)).flatMap requestBytes) =
        some body ∧ decodeBody body = .ok (series ++ series) := by
  intro series more
  obtain ⟨hjoined, hdecoded, hbatches⟩ := joined_bodies_are_read_in_turn
  have hmore : readRequest more = some [⟨[], []⟩] := by cbv
  have hcompress (bytes : List UInt8) (h : bytes.length ≤ Snappy.maxLength) :
      Snappy.decompress (varint bytes.length ++ Snappy.literals bytes) = some bytes :=
    Snappy.decompress_compress (if_pos h)
  have hboth : (irregularBody ++ more).length ≤ Snappy.maxLength := by decide
  have hall : ((splitBatches 1 (series ++ series)).flatMap requestBytes).length ≤
      Snappy.maxLength := by
    rw [flatMap_requestBytes, (isBatching_splitBatches 1 _).flatten_eq]
    have hlength : (requestBytes (series ++ series)).length = 28 := by cbv
    rw [hlength]
    decide
  have hA := hcompress irregularBody (by decide)
  have hB := hcompress more (by decide)
  refine ⟨?_, ⟨_, if_pos hboth, ?_⟩, _, if_pos hall, ?_⟩
  · rw [hjoined _ more _ readRequest_irregularBody, hmore]
    rfl
  · have hfirst : decodeBody (varint irregularBody.length ++ Snappy.literals irregularBody) =
        .ok series := by
      rw [decodeBody_eq hA, readRequest_irregularBody]
      rfl
    rw [hdecoded _ _ _ _ _ _ hA hB (hcompress _ hboth) hfirst, decodeBody_eq hB, hmore]
    rfl
  · exact hbatches 1 _ _ (hcompress _ hall)

end MetricLoad.Wire

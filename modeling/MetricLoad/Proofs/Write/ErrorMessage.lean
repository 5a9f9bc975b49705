import MetricLoad.Proofs.Text.Lossy
import MetricLoad.Write.Client
import Mathlib.Data.List.TakeWhile

/-!
# The message of a refused push

Of an error response the first bytes are looked at, and of these the first line is kept.  The limit
counts bytes and not characters.  A text whose first line is cut at the end of a character is kept
as it stands up to there.  A character that lies across the limit comes out as U+FFFD, and so do
bytes that form no character; these replacements are no part of the response and may be longer than
what they replace, so the message can outgrow the limit.
-/

namespace MetricLoad.Write

open Http Text

/-! ## First lines -/

theorem firstLine_prefix_takeWhile (s : List Char) : firstLine s <+: s.takeWhile (· != '\n') := by
  unfold firstLine
  simp only
  split
  · split
    · rename_i rest hline
      have hsplit : s.takeWhile (· != '\n') = rest.reverse ++ ['\r'] := by
        simpa using congrArg List.reverse hline
      rw [hsplit]
      exact List.prefix_append _ _
    · exact List.prefix_rfl
  · exact List.prefix_rfl

theorem firstLine_prefix (s : List Char) : firstLine s <+: s :=
  (firstLine_prefix_takeWhile s).trans (List.takeWhile_prefix _)

theorem not_mem_firstLine (s : List Char) : '\n' ∉ firstLine s := by
  intro hmem
  have hline := (firstLine_prefix_takeWhile s).subset hmem
  simpa using List.all_eq_true.1 List.all_takeWhile _ hline

/-- A text of one line is its own first line, with whatever it ends in. -/
theorem firstLine_of_not_mem {s : List Char} (h : '\n' ∉ s) : firstLine s = s := by
  have hwhole : s.takeWhile (· != '\n') = s := by
    rw [List.takeWhile_eq_self_iff]
    intro c hc
    rw [bne_iff_ne]
    rintro rfl
    exact h hc
  unfold firstLine
  simp only [hwhole]
  rw [if_neg (Nat.lt_irrefl _)]

/-- A line ends at the line feed at the latest. -/
theorem firstLine_append_lineFeed_isPrefix (s t : List Char) :
    firstLine (s ++ '\n' :: t) <+: s := by
  refine (firstLine_prefix_takeWhile _).trans ?_
  rw [List.takeWhile_append]
  split
  · have hstop : List.takeWhile (· != '\n') ('\n' :: t) = [] :=
      List.takeWhile_cons_of_neg (by decide)
    simp only [hstop, List.append_nil, List.prefix_refl]
  · exact List.takeWhile_prefix _

theorem firstLine_append_prefix {s : List Char} (h : '\n' ∈ s) (t : List Char) :
    firstLine (s ++ t) <+: s := by
  obtain ⟨front, back, rfl⟩ := List.append_of_mem h
  rw [List.append_assoc, List.cons_append]
  exact (firstLine_append_lineFeed_isPrefix front (back ++ t)).trans (List.prefix_append _ _)

theorem byteCount_le_of_isPrefix {s t : List Char} (h : s <+: t) : byteCount s ≤ byteCount t := by
  obtain ⟨rest, rfl⟩ := h
  rw [byteCount_append]
  exact Nat.le_add_right _ _

/-! ## Messages -/

/-- The bytes of the first line of a response, as far as they are looked at. -/
def lookedAt (body : List UInt8) : List UInt8 :=
  (body.take messageLimit).takeWhile (· != 0x0A)

theorem toList_errorMessage (body : List UInt8) :
    (errorMessage body).toList = firstLine (decodeLossyChars (body.take messageLimit)) := by
  rw [errorMessage, String.toList_ofList]

/-- No message is longer than the limit by more than the replacements make it. -/
theorem utf8ByteSize_errorMessage_le (body : List UInt8) :
    (errorMessage body).utf8ByteSize ≤ 3 * messageLimit := by
  have hstarts := firstLine_prefix (decodeLossyChars (body.take messageLimit))
  have hlength : (body.take messageLimit).length ≤ messageLimit := List.length_take_le _ _
  rw [← byteCount_toList, toList_errorMessage]
  calc byteCount (firstLine (decodeLossyChars (body.take messageLimit)))
      ≤ byteCount (decodeLossyChars (body.take messageLimit)) := byteCount_le_of_isPrefix hstarts
    _ ≤ 3 * (body.take messageLimit).length := byteCount_decodeLossyChars_le _
    _ ≤ 3 * messageLimit := Nat.mul_le_mul_left 3 hlength

theorem decodeLossyChars_lineFeed (rest : List UInt8) :
    decodeLossyChars (0x0A :: rest) = '\n' :: decodeLossyChars rest := by
  rw [decodeLossyChars_cons, firstChar_one rest (by decide)]
  rfl

/-- A message of whole characters has no more bytes than were looked at. -/
theorem utf8ByteSize_errorMessage_of_lookedAt {body : List UInt8}
    (h : (decodeChars? (lookedAt body)).isSome) :
    (errorMessage body).utf8ByteSize ≤ messageLimit := by
  obtain ⟨chars, hchars⟩ := Option.isSome_iff_exists.1 h
  have hsplit : lookedAt body ++ (body.take messageLimit).dropWhile (· != 0x0A) =
      body.take messageLimit := List.takeWhile_append_dropWhile
  obtain ⟨hdecode, hcount⟩ :=
    decodeLossyChars_append hchars ((body.take messageLimit).dropWhile (· != 0x0A))
  rw [hsplit] at hdecode
  have hlength : (lookedAt body).length ≤ messageLimit :=
    Nat.le_trans (List.takeWhile_prefix _).length_le (List.length_take_le _ _)
  have hstarts : firstLine (decodeLossyChars (body.take messageLimit)) <+: chars := by
    rw [hdecode]
    cases hrest : (body.take messageLimit).dropWhile (· != 0x0A) with
    | nil =>
      rw [decodeLossyChars_nil, List.append_nil]
      exact firstLine_prefix chars
    | cons b rest =>
      obtain rfl : b = 0x0A := by
        have hnot := List.head?_dropWhile_not (· != (0x0A : UInt8)) (body.take messageLimit)
        simpa [hrest] using hnot
      rw [decodeLossyChars_lineFeed]
      exact firstLine_append_lineFeed_isPrefix chars (decodeLossyChars rest)
  rw [← byteCount_toList, toList_errorMessage]
  exact Nat.le_trans (byteCount_le_of_isPrefix hstarts) (Nat.le_trans hcount hlength)

section Texts

variable {text : String} {front : List Char}

theorem take_bytes (text : String) (limit : Nat) :
    (bytes text).take limit = (text.toList.flatMap String.utf8EncodeChar).take limit := by
  rw [bytes_eq_flatMap]

/-- In the first line a character across the limit is replaced, and all before it is kept. -/
theorem toList_errorMessage_of_isCut (h : IsCut messageLimit text.toList front)
    (hline : '\n' ∉ front) : (errorMessage (bytes text)).toList = front ++ ['\uFFFD'] := by
  have hlast : '\n' ∉ front ++ ['\uFFFD'] := by
    simp only [List.mem_append, List.mem_singleton, not_or]
    exact ⟨hline, by decide⟩
  rw [toList_errorMessage, take_bytes, h.decodeLossyChars_take, firstLine_of_not_mem hlast]

/-- A text is kept up to the end of its first line or up to the limit, when no character of the line
lies across it. -/
theorem errorMessage_isPrefix (h : ∀ front, IsCut messageLimit text.toList front → '\n' ∈ front) :
    (errorMessage (bytes text)).toList <+: text.toList ∧
      (errorMessage (bytes text)).utf8ByteSize ≤ messageLimit := by
  rw [← byteCount_toList, toList_errorMessage, take_bytes]
  by_cases hcut : ∃ front, IsCut messageLimit text.toList front
  · obtain ⟨front, hfront⟩ := hcut
    have hstarts := firstLine_append_prefix (h front hfront) ['\uFFFD']
    rw [hfront.decodeLossyChars_take]
    obtain ⟨x, back, hsplit, hlimit, -⟩ := hfront.exists_split
    constructor
    · rw [hsplit]
      exact hstarts.trans (List.prefix_append _ _)
    · exact Nat.le_trans (byteCount_le_of_isPrefix hstarts) (Nat.le_of_lt hlimit)
  · obtain ⟨front, back, hsplit, hlimit, htake⟩ :=
      exists_take_of_not_isCut fun front hfront => hcut ⟨front, hfront⟩
    have hdecode : decodeLossyChars (front.flatMap String.utf8EncodeChar) = front := by
      have happend := (decodeLossyChars_append (decodeChars?_flatMap_encode front) []).1
      rwa [List.append_nil, decodeLossyChars_nil, List.append_nil] at happend
    rw [htake, hdecode]
    have hstarts := firstLine_prefix front
    constructor
    · rw [hsplit]
      exact hstarts.trans (List.prefix_append _ _)
    · exact Nat.le_trans (byteCount_le_of_isPrefix hstarts) hlimit

end Texts

/-- A refused push is told with a message of one line.  The message stays within the limit as long
as the bytes of that line are whole characters.  For a response that is a text, the message is the
beginning of the text, unless a character of its first line lies across the limit: that one alone
is replaced. -/
theorem rejection_keeps_first_line {status : Status} (hstatus : status.isSuccess = false)
    (body : List UInt8) :
    ∃ message : String,
      PushClient.judge (.response status (some body)) = .error (.rejected status message) ∧
      '\n' ∉ message.toList ∧ message.utf8ByteSize ≤ 3 * messageLimit ∧
      ((decodeChars? (lookedAt body)).isSome → message.utf8ByteSize ≤ messageLimit) ∧
      ∀ text : String, body = bytes text →
        ((∀ front, IsCut messageLimit text.toList front → '\n' ∈ front) →
          message.toList <+: text.toList ∧ message.utf8ByteSize ≤ messageLimit) ∧
        ∀ front, IsCut messageLimit text.toList front → '\n' ∉ front →
          message.toList = front ++ ['\uFFFD'] := by
  refine ⟨errorMessage body, ?_, ?_, utf8ByteSize_errorMessage_le body,
    utf8ByteSize_errorMessage_of_lookedAt, ?_⟩
  · rw [PushClient.judge, hstatus]
    rfl
  · rw [toList_errorMessage]
    exact not_mem_firstLine _
  · rintro text rfl
    exact ⟨errorMessage_isPrefix, fun front hcut hline => toList_errorMessage_of_isCut hcut hline⟩

/-! ## Responses at the limit -/

theorem byteCount_replicate (count : Nat) (x : Char) :
    byteCount (List.replicate count x) = count * x.utf8Size := by
  induction count with
  | zero => rw [Nat.zero_mul]; rfl
  | succ count ih => rw [List.replicate_succ, byteCount, ih, Nat.succ_mul, Nat.add_comm]

/-- Some characters, and behind them more characters of two bytes than the limit has room for. -/
def crowded (start : List Char) : String :=
  String.ofList (start ++ .replicate 300 'é')

theorem toList_crowded : (crowded ['a']).toList =
    'a' :: List.replicate 255 'é' ++ 'é' :: List.replicate 44 'é' := by
  rw [crowded, String.toList_ofList, List.singleton_append, ← List.replicate_succ,
    List.cons_append, List.replicate_append_replicate]

/-- Behind a single letter, one of the characters lies across the limit. -/
theorem isCut_crowded : IsCut messageLimit (crowded ['a']).toList ('a' :: .replicate 255 'é') := by
  have hbytes : byteCount ('a' :: List.replicate 255 'é') = 511 := by
    rw [byteCount, byteCount_replicate]
    rfl
  refine ⟨'é', List.replicate 44 'é', toList_crowded, ?_, ?_⟩
  · rw [hbytes]
    decide
  · rw [hbytes]
    decide

theorem lineFeed_not_mem_crowded : '\n' ∉ 'a' :: List.replicate 255 'é' := by
  rw [List.mem_cons, List.mem_replicate, not_or, not_and]
  exact ⟨by decide, fun _ => by decide⟩

/-- The limit lies far behind a line feed at the beginning. -/
theorem lineFeed_mem_of_isCut {front : List Char}
    (h : IsCut messageLimit (crowded ['o', 'k', '\n']).toList front) : '\n' ∈ front := by
  obtain ⟨x, back, hsplit, -, hx⟩ := h.exists_split
  have hsize := x.utf8Size_le_four
  rw [crowded, String.toList_ofList] at hsplit
  rcases front with _ | ⟨a, _ | ⟨b, _ | ⟨c, front⟩⟩⟩
  · simp only [byteCount, messageLimit] at hx
    omega
  · have ha := a.utf8Size_le_four
    simp only [byteCount, messageLimit] at hx
    omega
  · have ha := a.utf8Size_le_four
    have hb := b.utf8Size_le_four
    simp only [byteCount, messageLimit] at hx
    omega
  · simp only [List.cons_append, List.cons.injEq] at hsplit
    rw [← hsplit.2.2.1]
    simp

theorem lookedAt_crowded : lookedAt (bytes (crowded ['o', 'k', '\n'])) =
    ['o', 'k'].flatMap String.utf8EncodeChar := by
  rw [lookedAt, bytes_eq_flatMap, crowded, String.toList_ofList]
  rfl

/-- A character lies across the limit, in one response behind the first line, in one within it. -/
theorem rejection_keeps_first_line_cut :
    ∃ line cut : String,
      PushClient.judge (.response ⟨503⟩ (some (bytes (crowded ['o', 'k', '\n'])))) =
        .error (.rejected ⟨503⟩ line) ∧
      (decodeChars? (lookedAt (bytes (crowded ['o', 'k', '\n'])))).isSome ∧
      line.utf8ByteSize ≤ messageLimit ∧ line.toList <+: (crowded ['o', 'k', '\n']).toList ∧
      PushClient.judge (.response ⟨503⟩ (some (bytes (crowded ['a'])))) =
        .error (.rejected ⟨503⟩ cut) ∧
      IsCut messageLimit (crowded ['a']).toList ('a' :: .replicate 255 'é') ∧
      cut.toList = 'a' :: .replicate 255 'é' ++ ['\uFFFD'] := by
  have hwhole : (decodeChars? (lookedAt (bytes (crowded ['o', 'k', '\n'])))).isSome := by
    rw [lookedAt_crowded, decodeChars?_flatMap_encode]
    rfl
  obtain ⟨line, hline, -, -, hsize, htext⟩ := @rejection_keeps_first_line ⟨503⟩ rfl
    (bytes (crowded ['o', 'k', '\n']))
  obtain ⟨cut, hcut, -, -, -, htext'⟩ := @rejection_keeps_first_line ⟨503⟩ rfl
    (bytes (crowded ['a']))
  have hstarts := ((htext _ rfl).1 fun _ => lineFeed_mem_of_isCut).1
  exact ⟨line, cut, hline, hwhole, hsize hwhole, hstarts, hcut, isCut_crowded,
    (htext' _ rfl).2 _ isCut_crowded lineFeed_not_mem_crowded⟩

/-- The message of a text may be longer than the limit, and need not be the text's beginning. -/
theorem cut_character_outgrows_limit :
    ∃ message : String,
      PushClient.judge (.response ⟨503⟩ (some (bytes (crowded ['a'])))) =
        .error (.rejected ⟨503⟩ message) ∧
      messageLimit < message.utf8ByteSize ∧ ¬ message.toList <+: (crowded ['a']).toList := by
  have hmessage := toList_errorMessage_of_isCut isCut_crowded lineFeed_not_mem_crowded
  refine ⟨errorMessage (bytes (crowded ['a'])), rfl, ?_, ?_⟩
  · rw [← byteCount_toList, hmessage, byteCount_append, byteCount, byteCount_replicate]
    decide
  · rw [hmessage, toList_crowded, List.prefix_append_right_inj, List.cons_prefix_cons]
    exact fun hstarts => absurd hstarts.1 (by decide)

end MetricLoad.Write

import MetricLoad.Proofs.Metrics
import MetricLoad.Proofs.Text.Utf8
import MetricLoad.Query.Client
import MetricLoad.Write.Client
import Mathlib

/-!
# Requests and their records

A push is recorded once when its batch could be encoded, under the status of its response or under
`error` when there is none.  A query is always recorded once, under its type and its outcome.  The
outcome of either is told from the reply alone, so the counts after any calls are the numbers of
calls that came out in each way.
-/

namespace MetricLoad

open Http

/-! ## What becomes of a call -/

/-- A request made for one of the benchmarks, with the peer it goes to and the time it takes. -/
inductive Call
  | store (client : Write.PushClient) (peer : Peer) (elapsed : Float) (series : List TimeSeries)
  | execute (query : Query) (client : QueryClient) (peer : Peer) (now : Instant) (elapsed : Float)

/-- A body need not be a text: bytes that form no character do not matter in a string that nobody
looks into. -/
example : (ApiResponse.ofBytes? (Text.bytes "\x7b\"status\":\"success\",\"warnings\":[\"" ++
    [0xFF] ++ Text.bytes "\"]\x7d")).map (·.status) = some "success" := by
  decide +kernel

/-- A reply that counts as a success of a query: its status is 2xx, and its body is the envelope of
a response that says so. -/
def Http.Reply.IsAccepted : Reply → Prop
  | .missing => False
  | .response status body =>
    (200 ≤ status.code ∧ status.code < 300) ∧
      ∃ envelope : ApiResponse,
        envelope ∈ body.bind ApiResponse.ofBytes? ∧ envelope.status = "success"

instance (reply : Reply) : Decidable reply.IsAccepted :=
  match reply with
  | .missing => inferInstanceAs (Decidable False)
  | .response status body =>
    decidable_of_iff (status.isSuccess = true ∧
      (body.bind ApiResponse.ofBytes?).any (·.status == "success") = true) <| by
        simp [Reply.IsAccepted, Status.isSuccess, Option.any_eq_true]

namespace Call

/-- The metrics after a call. -/
def after (m : Metrics) : Call → Metrics
  | store client peer elapsed series => (client.store peer elapsed series m).2
  | execute query client peer now elapsed => (query.execute client peer now elapsed m).2

/-- The metrics after some calls, one after the other. -/
def afterAll (m : Metrics) (calls : List Call) : Metrics :=
  calls.foldl after m

/-- The reply to a push that was sent.  A batch that cannot be encoded is not. -/
def pushReply? : Call → Option Reply
  | store client peer _ series =>
    (Wire.encodeBody series).map fun body => peer.send (client.request body)
  | execute .. => none

/-- A query with the reply to it. -/
def queryReply? : Call → Option (Query × Reply)
  | store .. => none
  | execute query client peer now _ =>
    some (query, peer.send (client.request query.expression (query.times now)))

/-- Whether a call is a push of an encoded batch. -/
def isEncoded (call : Call) : Bool :=
  call.pushReply?.isSome

/-- Whether a call is a push that was answered with a status. -/
def isAnsweredWith (code : Nat) (call : Call) : Bool :=
  call.pushReply?.any fun reply => match reply with
    | .missing => false
    | .response status _ => status.code == code

/-- Whether a call is a push that was sent without getting a response. -/
def isUnanswered (call : Call) : Bool :=
  call.pushReply? == some .missing

/-- Whether a call is a query of a type with an outcome. -/
def isExecuted (outcome type : String) (call : Call) : Bool :=
  call.queryReply?.any fun (query, reply) =>
    outcome == (if reply.IsAccepted then "success" else "failure") &&
      type == (if query.range = .zero then "instant" else "range")

/-! ## Outcomes -/

theorem toString_ne_error (n : Nat) : toString n ≠ "error" := by
  intro h
  have hdigit : 'e' ∈ Nat.toDigits 10 n := by
    rw [← String.toList_ofList (l := Nat.toDigits 10 n), ← Nat.toString_eq_ofList_toDigits, h]
    decide
  exact absurd (Nat.isDigit_of_mem_toDigits (by decide) (by decide) hdigit) (by decide)

theorem isSuccess_iff (status : Status) :
    status.isSuccess = true ↔ 200 ≤ status.code ∧ status.code < 300 := by
  rw [Status.isSuccess, Bool.and_eq_true, decide_eq_true_iff, decide_eq_true_iff]

theorem isServerError_iff (status : Status) :
    status.isServerError = true ↔ 500 ≤ status.code ∧ status.code < 600 := by
  rw [Status.isServerError, Bool.and_eq_true, decide_eq_true_iff, decide_eq_true_iff]

/-- A query has a result exactly when its reply is accepted. -/
theorem isOk_judge_query (reply : Reply) :
    (QueryClient.judge reply).isOk = true ↔ reply.IsAccepted := by
  cases reply with
  | missing => exact ⟨fun h => absurd h Bool.false_ne_true, False.elim⟩
  | response status body =>
    cases hread : body.bind ApiResponse.ofBytes? with
    | none => simp [QueryClient.judge, Reply.IsAccepted, hread, Except.isOk, Except.toBool]
    | some envelope =>
      have hboth : (status.isSuccess && envelope.status == "success") = true ↔
          (200 ≤ status.code ∧ status.code < 300) ∧ envelope.status = "success" := by
        rw [Bool.and_eq_true, isSuccess_iff, beq_iff_eq]
      simp only [QueryClient.judge, Reply.IsAccepted, hread, Option.mem_some_iff, exists_eq_left']
      rw [← hboth]
      split
      · exact ⟨fun _ => ‹_›, fun _ => rfl⟩
      · exact ⟨fun h => absurd h Bool.false_ne_true, fun h => absurd h ‹_›⟩

theorem outcome_judge_query (reply : Reply) :
    Query.outcome (QueryClient.judge reply) =
      if reply.IsAccepted then "success" else "failure" := by
  have hok := isOk_judge_query reply
  cases hjudge : QueryClient.judge reply with
  | ok envelope =>
    rw [hjudge] at hok
    rw [if_pos (hok.1 rfl)]
    rfl
  | error e =>
    rw [hjudge] at hok
    rw [if_neg fun haccepted => nomatch hok.2 haccepted]
    rfl

theorem typeName_eq (q : Query) : q.typeName = if q.range = .zero then "instant" else "range" := by
  rw [Query.typeName, Query.isRange]
  by_cases hzero : q.range = .zero
  · rw [if_pos hzero, (Duration.isZero_iff _).2 hzero]
    rfl
  · have hfalse : q.range.isZero = false := by
      rw [← Bool.not_eq_true, Duration.isZero_iff]
      exact hzero
    rw [if_neg hzero, hfalse]
    rfl

/-! ## One call -/

theorem after_store (m : Metrics) (client : Write.PushClient) (peer : Peer) (elapsed : Float)
    (series : List TimeSeries) :
    after m (.store client peer elapsed series) =
      match (store client peer elapsed series).pushReply? with
      | none => m
      | some reply => m.observeWrite (Write.PushClient.replyCode reply) elapsed := by
  cases hencode : Wire.encodeBody series with
  | none => simp only [after, Write.PushClient.store, pushReply?, hencode, Option.map_none]
  | some body => simp only [after, Write.PushClient.store, pushReply?, hencode, Option.map_some]

theorem after_execute (m : Metrics) (query : Query) (client : QueryClient) (peer : Peer)
    (now : Instant) (elapsed : Float) :
    after m (.execute query client peer now elapsed) =
      m.observeQuery
        (if (peer.send (client.request query.expression (query.times now))).IsAccepted
          then "success" else "failure")
        (if query.range = .zero then "instant" else "range") elapsed := by
  rw [← outcome_judge_query, ← typeName_eq]
  rfl

/-- A push adds one to the count under the code of its reply, and a query none to any. -/
theorem writeCount_after (m : Metrics) (call : Call) (label : String) :
    (after m call).writeCount label = m.writeCount label +
      if call.pushReply?.map Write.PushClient.replyCode = some label then 1 else 0 := by
  cases call with
  | store client peer elapsed series =>
    rw [after_store]
    cases (store client peer elapsed series).pushReply? with
    | none => rfl
    | some reply =>
      simp only [Metrics.writeCount_observeWrite, Option.map_some, Option.some.injEq]
  | execute => rfl

theorem writeObservations_after (m : Metrics) (call : Call) :
    (after m call).writeObservations =
      m.writeObservations + if call.isEncoded then 1 else 0 := by
  cases call with
  | store client peer elapsed series =>
    rw [after_store, isEncoded]
    cases (store client peer elapsed series).pushReply? with
    | none => rfl
    | some reply => exact m.writeObservations_observeWrite _ _
  | execute => rfl

theorem queryCount_after (m : Metrics) (call : Call) (outcome type : String) :
    (after m call).queryCount outcome type = m.queryCount outcome type +
      if call.isExecuted outcome type then 1 else 0 := by
  cases call with
  | store client peer elapsed series =>
    rw [after_store]
    cases (store client peer elapsed series).pushReply? <;> rfl
  | execute query client peer now elapsed =>
    rw [after_execute, Metrics.queryCount_observeQuery]
    simp only [isExecuted, queryReply?, Option.any_some, Bool.and_eq_true, beq_iff_eq,
      Prod.mk.injEq]
    simp only [eq_comm]

theorem replyCode_eq_toString_iff {call : Call} {code : Nat} :
    call.pushReply?.map Write.PushClient.replyCode = some (toString code) ↔
      call.isAnsweredWith code = true := by
  unfold isAnsweredWith
  cases call.pushReply? with
  | none => simp
  | some reply =>
    cases reply with
    | missing => simpa [Write.PushClient.replyCode] using (toString_ne_error code).symm
    | response status body =>
      simp only [Write.PushClient.replyCode, Option.map_some, Option.some.injEq, Option.any_some,
        beq_iff_eq]
      exact Nat.repr_inj

theorem replyCode_eq_error_iff {call : Call} :
    call.pushReply?.map Write.PushClient.replyCode = some "error" ↔ call.isUnanswered = true := by
  unfold isUnanswered
  cases call.pushReply? with
  | none => simp
  | some reply =>
    cases reply with
    | missing => simp [Write.PushClient.replyCode]
    | response status body =>
      simpa [Write.PushClient.replyCode] using toString_ne_error status.code

/-- What a call does not count. -/
theorem unchanged_after (m : Metrics) (call : Call) :
    (after m call).writeBatches = m.writeBatches ∧ (after m call).writeSeries = m.writeSeries ∧
      (after m call).resolved = m.resolved := by
  cases call with
  | store client peer elapsed series =>
    rw [after_store]
    cases (store client peer elapsed series).pushReply? <;> exact ⟨rfl, rfl, rfl⟩
  | execute => exact ⟨rfl, rfl, rfl⟩

/-- A count of write requests changes under the code of the reply only. -/
theorem eq_code_of_writeCount_after_ne {m : Metrics} {call : Call} {label : String}
    (h : (after m call).writeCount label ≠ m.writeCount label) :
    (call.isUnanswered = true ∧ label = "error") ∨
      ∃ code, call.isAnsweredWith code = true ∧ label = toString code := by
  rw [writeCount_after] at h
  have hcode : call.pushReply?.map Write.PushClient.replyCode = some label := by
    by_contra hne
    rw [if_neg hne] at h
    exact h rfl
  obtain ⟨reply, hreply, rfl⟩ := Option.map_eq_some_iff.1 hcode
  cases reply with
  | missing => exact .inl ⟨replyCode_eq_error_iff.1 hcode, rfl⟩
  | response status body => exact .inr ⟨status.code, replyCode_eq_toString_iff.1 hcode, rfl⟩

theorem isExecuted_of_queryCount_after_ne {m : Metrics} {call : Call} {outcome type : String}
    (h : (after m call).queryCount outcome type ≠ m.queryCount outcome type) :
    call.isExecuted outcome type = true := by
  rw [queryCount_after] at h
  by_contra hne
  rw [if_neg hne] at h
  exact h rfl

/-! ## Results of pushes -/

section Results

variable (client : Write.PushClient) (peer : Peer) (elapsed : Float) (series : List TimeSeries)
  (m : Metrics)

/-- The result of a push is read off the reply, and there is none to a batch that is too long. -/
theorem store_result_eq :
    (client.store peer elapsed series m).1 =
      match (store client peer elapsed series).pushReply? with
      | none => .error .tooLong
      | some reply => Write.PushClient.judge reply := by
  cases hencode : Wire.encodeBody series with
  | none => simp only [Write.PushClient.store, pushReply?, hencode, Option.map_none]
  | some body => simp only [Write.PushClient.store, pushReply?, hencode, Option.map_some]

theorem store_eq_ok_iff (status : Status) :
    (client.store peer elapsed series m).1 = .ok status ↔
      ∃ body, (store client peer elapsed series).pushReply? = some (.response status body) ∧
        200 ≤ status.code ∧ status.code < 300 := by
  rw [store_result_eq]
  cases (store client peer elapsed series).pushReply? with
  | none => simp
  | some reply =>
    cases reply with
    | missing => simp [Write.PushClient.judge]
    | response answered body =>
      simp only [Write.PushClient.judge]
      by_cases hsuccess : answered.isSuccess = true
      · rw [if_pos hsuccess]
        have hcode := (isSuccess_iff answered).1 hsuccess
        constructor
        · intro h
          cases h
          exact ⟨body, rfl, hcode⟩
        · rintro ⟨_, h, -⟩
          cases h
          rfl
      · rw [if_neg hsuccess]
        constructor
        · intro h
          cases h
        · rintro ⟨_, h, hcode⟩
          cases h
          exact absurd ((isSuccess_iff status).2 hcode) hsuccess

theorem isRecoverable_iff_of_store {e : Write.WriteError}
    (h : (client.store peer elapsed series m).1 = .error e) :
    e.isRecoverable = true ↔ (store client peer elapsed series).isUnanswered = true ∨
      ∃ status body, (store client peer elapsed series).pushReply? = some (.response status body) ∧
        500 ≤ status.code ∧ status.code < 600 := by
  rw [store_result_eq] at h
  unfold isUnanswered
  cases hreply : (store client peer elapsed series).pushReply? with
  | none =>
    rw [hreply] at h
    cases h
    simp [Write.WriteError.isRecoverable]
  | some reply =>
    rw [hreply] at h
    cases reply with
    | missing =>
      cases h
      simp [Write.WriteError.isRecoverable]
    | response status body =>
      simp only [Write.PushClient.judge] at h
      split at h
      · cases h
      · cases h
        simp only [Write.WriteError.isRecoverable, isServerError_iff]
        simp

end Results

/-! ## Calls one after the other -/

/-- A count that grows by one for the calls of a kind grows by their number. -/
theorem count_afterAll (count : Metrics → Nat) {kind : Call → Bool}
    (hstep : ∀ m call, count (after m call) = count m + if kind call = true then 1 else 0)
    (m : Metrics) (calls : List Call) :
    count (afterAll m calls) = count m + calls.countP kind := by
  induction calls generalizing m with
  | nil => rfl
  | cons call calls ih =>
    have hrest : afterAll m (call :: calls) = afterAll (after m call) calls := rfl
    rw [hrest, ih, hstep, List.countP_cons]
    omega

/-- After any calls the counts have grown by the numbers of calls with each outcome, and every call
has changed only the count of its own.  The result of a push tells its outcome as well. -/
theorem afterAll_counts_outcomes (m : Metrics) (calls : List Call) :
    (∀ code, (afterAll m calls).writeCount (toString code) =
      m.writeCount (toString code) + calls.countP (isAnsweredWith code)) ∧
    (afterAll m calls).writeCount "error" = m.writeCount "error" + calls.countP isUnanswered ∧
    (afterAll m calls).writeObservations = m.writeObservations + calls.countP isEncoded ∧
    (∀ outcome type, (afterAll m calls).queryCount outcome type =
      m.queryCount outcome type + calls.countP (isExecuted outcome type)) ∧
    (∀ call ∈ calls, ∀ before : Metrics,
      ((after before call).writeBatches = before.writeBatches ∧
        (after before call).writeSeries = before.writeSeries ∧
        (after before call).resolved = before.resolved) ∧
      (∀ label, (after before call).writeCount label ≠ before.writeCount label →
        (call.isUnanswered = true ∧ label = "error") ∨
          ∃ code, call.isAnsweredWith code = true ∧ label = toString code) ∧
      ∀ outcome type, (after before call).queryCount outcome type ≠ before.queryCount outcome type →
        call.isExecuted outcome type = true) ∧
    ∀ (client : Write.PushClient) (peer : Peer) (elapsed : Float) (series : List TimeSeries),
      (∀ status, (client.store peer elapsed series m).1 = .ok status ↔
        ∃ body, (store client peer elapsed series).pushReply? = some (.response status body) ∧
          200 ≤ status.code ∧ status.code < 300) ∧
      ∀ e, (client.store peer elapsed series m).1 = .error e →
        (e.isRecoverable = true ↔ (store client peer elapsed series).isUnanswered = true ∨
          ∃ status body,
            (store client peer elapsed series).pushReply? = some (.response status body) ∧
              500 ≤ status.code ∧ status.code < 600) := by
  refine ⟨fun code => ?_, ?_, ?_, fun outcome type => ?_, fun call _ before => ?_,
    fun client peer elapsed series => ?_⟩
  · refine count_afterAll (·.writeCount (toString code)) (fun m call => ?_) m calls
    simp only [writeCount_after, replyCode_eq_toString_iff]
  · refine count_afterAll (·.writeCount "error") (fun m call => ?_) m calls
    simp only [writeCount_after, replyCode_eq_error_iff]
  · exact count_afterAll Metrics.writeObservations writeObservations_after m calls
  · exact count_afterAll (·.queryCount outcome type)
      (fun m call => queryCount_after m call outcome type) m calls
  · exact ⟨unchanged_after before call, fun label => eq_code_of_writeCount_after_ne,
      fun outcome type => isExecuted_of_queryCount_after_ne⟩
  · exact ⟨store_eq_ok_iff client peer elapsed series m,
      fun e => isRecoverable_iff_of_store client peer elapsed series m⟩

/-- A push that is answered with 503, one that is not answered, and a range query that succeeds. -/
theorem afterAll_counts_outcomes_mixed :
    ∃ (client : Write.PushClient) (peer : Peer) (query : Call) (calls : List Call),
      calls = [.store client peer 0.0 [], .store client .unreachable 0.0 [], query] ∧
      (afterAll .empty calls).writeCount (toString 503) = 1 ∧
      (afterAll .empty calls).writeCount "error" = 1 ∧
      (afterAll .empty calls).writeObservations = 2 ∧
      (afterAll .empty calls).queryCount "success" "range" = 1 ∧
      (after .empty query).queryCount "success" "range" ≠
        Metrics.empty.queryCount "success" "range" ∧
      query.isExecuted "success" "range" = true ∧
      ∃ e, (client.store peer 0.0 [] .empty).1 = .error e ∧ e.isRecoverable = true := by
  let options : ClientOptions := ⟨.ofSeconds 15, none, none⟩
  let client : Write.PushClient := ⟨"ingester:80", options⟩
  let peer : Peer := fun _ => .response ⟨503⟩ none
  let envelope : List UInt8 := Text.bytes "\x7b\"status\":\"success\"\x7d"
  let query : Call := .execute ⟨"up", .ofSeconds 1, .ofSeconds 60⟩ ⟨"querier:80", "", options⟩
    (fun _ => .response ⟨200⟩ (some envelope)) .epoch 0.0
  have hquery : query.isExecuted "success" "range" = true := by decide +kernel
  have hchanged : (after .empty query).queryCount "success" "range" ≠
      Metrics.empty.queryCount "success" "range" := by
    rw [queryCount_after, if_pos hquery]
    exact Nat.succ_ne_self _
  have hrefused : (client.store peer 0.0 [] .empty).1 = .error (.rejected ⟨503⟩ "") := by
    decide +kernel
  have hanswered : (store client peer 0.0 []).pushReply? = some (.response ⟨503⟩ none) := by
    decide +kernel
  obtain ⟨hcodes, herror, hwrites, hqueries, hcalls, hstores⟩ := afterAll_counts_outcomes .empty
    [.store client peer 0.0 [], .store client .unreachable 0.0 [], query]
  refine ⟨client, peer, query, _, rfl, ?_, ?_, ?_, ?_, hchanged, ?_, _, hrefused, ?_⟩
  · rw [hcodes 503]
    decide +kernel
  · rw [herror]
    decide +kernel
  · rw [hwrites]
    decide +kernel
  · rw [hqueries "success" "range"]
    decide +kernel
  · exact (hcalls query (by simp) .empty).2.2 _ _ hchanged
  · exact ((hstores client peer 0.0 []).2 _ hrefused).2
      (.inr ⟨⟨503⟩, none, hanswered, by decide, by decide⟩)

end Call
end MetricLoad

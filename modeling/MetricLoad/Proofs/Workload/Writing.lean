import MetricLoad.Proofs.Json.Reading
import MetricLoad.Workload.Reading
import Mathlib.Tactic.Common

/-!
# Workload descriptions survive their JSON form

Every record of a description is written as an object of all its fields and read from it again, from
the labels up to the workload.
-/

namespace MetricLoad

open Document Json

/-! ## Static labels -/

namespace StaticLabels

/-- An entry behind all others is added at the end. -/
theorem insertEntry_of_forall_lt {name value : String} {entries : List (String × String)}
    (h : ∀ entry ∈ entries, entry.1 < name) :
    insertEntry name value entries = entries ++ [(name, value)] := by
  induction entries with
  | nil => rfl
  | cons first rest ih =>
    obtain ⟨hfirst, hrest⟩ := List.forall_mem_cons.1 h
    rw [insertEntry, if_neg (String.lt_asymm hfirst), if_neg, ih hrest, List.cons_append]
    rintro rfl
    exact String.lt_irrefl _ hfirst

/-- Entries in increasing order behind those of a map are added at its end. -/
theorem entries_foldl_insert (labels : StaticLabels) (entries : List (String × String))
    (h : (labels.entries ++ entries).Pairwise fun a b => a.1 < b.1) :
    (entries.foldl (fun labels (name, value) => labels.insert name value) labels).entries =
      labels.entries ++ entries := by
  induction entries generalizing labels with
  | nil => exact (List.append_nil _).symm
  | cons first rest ih =>
    obtain ⟨name, value⟩ := first
    have hinsert : (labels.insert name value).entries = labels.entries ++ [(name, value)] :=
      insertEntry_of_forall_lt fun entry hentry =>
        (List.pairwise_append.1 h).2.2 entry hentry _ List.mem_cons_self
    rw [List.foldl_cons, ih, hinsert, List.append_assoc]
    · rfl
    · rw [hinsert, List.append_assoc]
      exact h

/-- A map is the map of its entries. -/
theorem ofList_entries (labels : StaticLabels) : ofList labels.entries = labels := by
  have hentries : (ofList labels.entries).entries = labels.entries :=
    entries_foldl_insert .empty labels.entries labels.increasing
  cases hlabels : ofList labels.entries with
  | mk entries increasing =>
    rw [hlabels] at hentries
    cases labels
    subst hentries
    rfl

end StaticLabels

/-! ## Kinds and records -/

theorem SeriesKind.read_toJson (kind : SeriesKind) : SeriesKind.read kind.toJson = pure kind := by
  cases kind <;> rfl

theorem VaryingLabel.read_toJson (v : VaryingLabel) :
    VaryingLabel.record.read v.toJson = pure v := by
  have fills : Fills record {} [("name", .text v.name), ("value_prefix", .text v.valueStem),
      ("unique_values", Json.size v.variants)] ⟨some v.name, some v.valueStem, some v.variants⟩ :=
    .cons (step_eq_pure rfl _) <| .cons (step_eq_pure rfl _) <|
      .cons (step_eq_pure (read_size v.variants) _) <| .nil _
  exact read_object rfl (by decide) fills rfl

theorem SeriesTemplate.read_toJson (s : SeriesTemplate) :
    SeriesTemplate.record.read s.toJson = pure s := by
  have htext (value : String) : Document.text "a string" (Json.text value) = pure value := rfl
  have hstatic : Document.map (Document.text "a string") s.staticLabels.toJson =
      pure s.staticLabels.entries :=
    read_entries htext s.staticLabels.entries
  have fills : Fills record {} [("name", .text s.name), ("type", s.kind.toJson),
      ("static_labels", s.staticLabels.toJson),
      ("labels", .array (s.varyingLabels.map (·.toJson)))]
      ⟨some s.name, some s.kind, .ofList s.staticLabels.entries, s.varyingLabels⟩ :=
    .cons (step_eq_pure rfl _) <| .cons (step_eq_pure s.kind.read_toJson _) <|
      .cons (step_eq_pure hstatic _) <|
      .cons (step_eq_pure (read_array VaryingLabel.read_toJson s.varyingLabels) _) <| .nil _
  rw [StaticLabels.ofList_entries] at fills
  exact read_object rfl (by decide) fills rfl

theorem QueryDescription.read_toJson (q : QueryDescription) :
    QueryDescription.record.read q.toJson = pure q := by
  have hrange : Document.optional Document.duration (orNull Duration.toJson q.range) =
      pure q.range :=
    read_orNull read_duration (fun _ => Json.noConfusion) q.range
  have fills : Fills record {} [("num_queries", Json.size q.count),
      ("expr_template", .text q.expression), ("series_type", q.kind.toJson),
      ("interval", q.interval.toJson), ("time_range", orNull Duration.toJson q.range),
      ("regex", .bool q.regex), ("inject_exact_series_matcher", .bool q.exactSeries)]
      ⟨some q.count, some q.expression, some q.kind, some q.interval, q.range, q.regex,
        q.exactSeries⟩ :=
    .cons (step_eq_pure (read_size q.count) _) <| .cons (step_eq_pure rfl _) <|
      .cons (step_eq_pure q.kind.read_toJson _) <| .cons (step_eq_pure (read_duration q.interval) _) <|
      .cons (step_eq_pure hrange _) <| .cons (step_eq_pure rfl _) <| .cons (step_eq_pure rfl _) <| .nil _
  exact read_object rfl (by decide) fills rfl

theorem WriteOverrides.read_toJson (w : WriteOverrides) :
    WriteOverrides.record.read w.toJson = pure w := by
  have hduration (d : Option Duration) :
      Document.optional Document.duration (orNull Duration.toJson d) = pure d :=
    read_orNull read_duration (fun _ => Json.noConfusion) d
  have hsize : Document.optional Document.size (orNull Json.size w.batchSize) = pure w.batchSize :=
    read_orNull read_size (fun _ => Json.noConfusion) w.batchSize
  have fills : Fills record {} [("interval", orNull Duration.toJson w.interval),
      ("timeout", orNull Duration.toJson w.timeout),
      ("batch_size", orNull Json.size w.batchSize)] w :=
    .cons (step_eq_pure (hduration w.interval) _) <| .cons (step_eq_pure (hduration w.timeout) _) <|
      .cons (step_eq_pure hsize _) <| .nil _
  exact read_object rfl (by decide) fills rfl

theorem Workload.read_toJson (w : Workload) : Workload.read w.toJson = pure w := by
  have fills : Fills record {} [("replicas", Json.size w.replicas),
      ("series", .array (w.series.map (·.toJson))), ("queries", .array (w.queries.map (·.toJson))),
      ("write_options", w.write.toJson)] ⟨some w.replicas, w.series, w.queries, w.write⟩ :=
    .cons (step_eq_pure (read_size w.replicas) _) <|
      .cons (step_eq_pure (read_array SeriesTemplate.read_toJson w.series) _) <|
      .cons (step_eq_pure (read_array QueryDescription.read_toJson w.queries) _) <|
      .cons (step_eq_pure w.write.read_toJson _) <| .nil _
  exact read_object rfl (by decide) fills rfl

/-- Every description is read back, equal, from the value that it is written as. -/
theorem Workload.outcome_read_toJson (w : Workload) :
    (Workload.read w.toJson).outcome = .ok w := by
  rw [Workload.read_toJson]
  rfl

end MetricLoad

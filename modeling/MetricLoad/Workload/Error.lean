import MetricLoad.Query.Template
import MetricLoad.Workload.Description

/-!
# Why a workload cannot be built

A well-formed description may still be refused: by a query template, by a query without a series of
its kind, by queries without a replica, or by an option that must not be zero.
-/

namespace MetricLoad

/-- An option that must be positive. -/
inductive PositiveOption
  | batchSize
  | writeInterval
  | writeTimeout
  | queryInterval
  deriving DecidableEq, Repr

/-- The name of an option in error texts. -/
def PositiveOption.name : PositiveOption → String
  | .batchSize => "write batch size"
  | .writeInterval => "write interval"
  | .writeTimeout => "write timeout"
  | .queryInterval => "query interval"

/-- Why a workload cannot be built from its description. -/
inductive WorkloadError
  | template (cause : TemplateError)
  | noSeriesOfKind (kind : SeriesKind)
  | noReplicas
  | zero (option : PositiveOption)
  deriving DecidableEq, Repr

/-- The wording of an error. -/
def WorkloadError.message : WorkloadError → String
  | .template cause => "unable to parse query template: " ++ cause.message
  | .noSeriesOfKind kind => "no series found for query with series type " ++ kind.name
  | .noReplicas => "queries require at least one replica"
  | .zero option => option.name ++ " must be greater than zero"

/-- The texts of an error and of the error that caused it, outermost first. -/
def WorkloadError.chain : WorkloadError → List String
  | .template cause => [WorkloadError.message (.template cause), cause.message]
  | e => [e.message]

end MetricLoad

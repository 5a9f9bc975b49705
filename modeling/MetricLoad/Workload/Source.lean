import MetricLoad.Workload.Reading
import MetricLoad.Yaml.Reading

/-!
# Workload files

The text of a workload file is a YAML document of the schema of workloads.  A blank text is an empty
document, which still lacks its required fields.
-/

namespace MetricLoad

/-- The workload that a text describes. -/
def Workload.ofText (text : String) : Except Yaml.TextError Workload :=
  Yaml.readText Workload.read text

end MetricLoad

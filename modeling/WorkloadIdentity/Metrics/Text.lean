import WorkloadIdentity.Metrics.Basic
import WorkloadIdentity.Number.Literal

namespace WorkloadIdentity.Metrics

def contentType : String := "text/plain; version=0.0.4"

def escapeLabel (c : Char) : List Char :=
  if c = '\\' then ['\\', '\\']
  else if c = '"' then ['\\', '"']
  else if c = '\n' then ['\\', 'n']
  else [c]

def labelText (label : String × String) : String :=
  label.1 ++ "=\"" ++ String.ofList (label.2.toList.flatMap escapeLabel) ++ "\""

/-- One line: a name, labels and a value. -/
def line (name : String) (labels : List (String × String)) (value : String) : String :=
  name ++ "\x7b" ++ ",".intercalate (labels.map labelText) ++ "\x7d " ++ value ++ "\n"

/-- A family with its lines, or nothing if it has none. -/
def family (name help type : String) (lines : List String) : String :=
  if lines.isEmpty then ""
  else
    "# HELP " ++ name ++ " " ++ help ++ "\n# TYPE " ++ name ++ " " ++ type ++ "\n" ++
      String.join lines

def countLines (name first second : String) (counts : Counts) : List String :=
  counts.entries.flatMap fun (a, row) =>
    row.entries.map fun (b, n) => line name [(first, a), (second, b)] (toString n)

def histogramLines (name label value : String) (h : Histogram) : List String :=
  let bucket (bound : String) (n : Nat) : String :=
    line (name ++ "_bucket") [(label, value), ("le", bound)] (toString n)
  List.zipWith (fun bound n => bucket (Histogram.boundValue bound).text n) Histogram.bounds
      h.atMost ++
    [bucket "+Inf" h.total, line (name ++ "_sum") [(label, value)] h.sum.text,
      line (name ++ "_count") [(label, value)] (toString h.total)]

/-- The text of all metrics. -/
def text (m : Metrics) : String :=
  let applied := "ztwim_applied_objects_total"
  let ready := "ztwim_operand_ready"
  let durations := "ztwim_reconcile_duration_seconds"
  let reconciliations := "ztwim_reconciliations_total"
  family applied "Managed objects processed by outcome" "counter"
      (countLines applied "kind" "outcome" m.applied) ++
    family ready "Whether an operand reports Ready (1) or not (0)" "gauge"
      (m.ready.entries.map fun (operand, b) =>
        line ready [("operand", operand)] (if b then "1" else "0")) ++
    family durations "Duration of reconciliations in seconds" "histogram"
      (m.durations.entries.flatMap fun (c, h) => histogramLines durations "controller" c h) ++
    family reconciliations "Total number of reconciliations" "counter"
      (countLines reconciliations "controller" "result" m.reconciliations)

end WorkloadIdentity.Metrics

import Backlog.Named

/-! # Counters

What the program counts. A `Counts` is the list of what was added to which counter, so that the counts
of two steps together are their concatenation and `Counts.value` of a concatenation is the sum. -/

namespace Backlog

/-- How a generation run ended. -/
inductive RunResult where
  | success | fallback | failed
  deriving Repr, DecidableEq, Inhabited

instance : Named RunResult where
  noun := "run result"
  values := [.success, .fallback, .failed]
  name
    | .success => "success"
    | .fallback => "fallback"
    | .failed => "failed"

/-- Whether tokens were sent to a model or came from it. -/
inductive Direction where
  | input | output
  deriving Repr, DecidableEq, Inhabited

instance : Named Direction where
  noun := "direction"
  values := [.input, .output]
  name
    | .input => "input"
    | .output => "output"

/-- A counter. -/
inductive Metric where
  /-- Generation runs. -/
  | runs (result : RunResult)
  /-- Generation runs whose duration was measured. -/
  | durations (result : RunResult)
  /-- Runs that met a cyclic dependency. -/
  | cycles
  /-- Tickets written by runs. -/
  | tickets
  /-- Connections that are registered. -/
  | active
  /-- Connections that were ever registered. -/
  | attached
  /-- Connections given up for their silence. -/
  | evicted
  /-- Events handed to a connection. -/
  | delivered (event : String)
  /-- Events that a connection could not take. -/
  | undelivered (event : String)
  /-- Connections refused for their token. -/
  | refused (reason : String)
  /-- Tokens of a language model. -/
  | tokens (provider : String) (direction : Direction)
  deriving Repr, DecidableEq

namespace Metric

/-- The name of a counter. -/
def name : Metric → String
  | runs _ => "generation_runs_total"
  | durations _ => "generation_duration_seconds"
  | cycles => "cycles_detected_total"
  | tickets => "tickets_generated_total"
  | active => "ws_connections_active"
  | attached => "ws_connections_total"
  | evicted => "ws_evictions_total"
  | delivered _ => "broadcast_deliveries_total"
  | undelivered _ => "broadcast_failures_total"
  | refused _ => "ws_auth_failures_total"
  | tokens .. => "llm_tokens_total"

/-- What tells a counter from others of its name, by ascending label. -/
def labels : Metric → List (String × String)
  | runs r | durations r => [("result", Named.name r)]
  | delivered e | undelivered e => [("event", e)]
  | refused r => [("reason", r)]
  | tokens p d => [("direction", Named.name d), ("provider", p)]
  | _ => []

/-- The name of a counter with its labels in braces. -/
def key (m : Metric) : String :=
  m.name ++ "\x7b" ++ ",".intercalate (m.labels.map fun (k, v) => k ++ "=" ++ v) ++ "\x7d"

end Metric

/-- What was added to which counter. -/
abbrev Counts := List (Metric × Int)

namespace Counts

/-- How much was added to a counter in all. -/
def value (c : Counts) (m : Metric) : Int := ((c.filter (·.1 == m)).map (·.2)).foldr (· + ·) 0

/-- The counters that have changed. -/
def changed (c : Counts) : List Metric := ((c.map (·.1)).eraseDups).filter fun m => c.value m != 0

/-- The counters that have changed, a line each. -/
def text (c : Counts) : String :=
  "\n".intercalate ("# counters" :: c.changed.map fun m => m.key ++ " " ++ toString (c.value m))

end Counts

end Backlog

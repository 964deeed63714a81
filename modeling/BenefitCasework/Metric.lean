import BenefitCasework.Request.Operation
import BenefitCasework.Table

/-!
Contract: what is counted while the office works.

Owns:
- `Metric`, everything that is counted, with its labels;
- `Metric.text`, the name of a metric with its labels in braces;
- `Tally`, the counts;
- `ExporterError`, why the counts cannot be served.

Does not own: when something is counted.
-/

namespace BenefitCasework

/-- Something that is counted. -/
inductive Metric where
  | operations (operation : OperationName)
  | refusals (operation : OperationName) (code : String)
  | conflicts
  | auditEntries (signed : Bool)
  | signatureFailures
  | published (kind : String)
  | publishRetries
  | publishFailures
  | retryAttempts (activity : String)
  | held
  | replayed
  | lettersRefused
  | lettersWaiting
  | noticesDelivered
  | noticesSkipped
  | actions
  | effects
deriving DecidableEq, Repr

namespace Metric

def name : Metric → String
  | .operations _ => "requests.operations.total"
  | .refusals _ _ => "requests.operations.rejected"
  | .conflicts => "requests.concurrency_conflicts"
  | .auditEntries _ => "audit.entries.recorded"
  | .signatureFailures => "audit.signature_failures"
  | .published _ => "events.published"
  | .publishRetries => "events.publish_retries"
  | .publishFailures => "events.publish_failed"
  | .retryAttempts _ => "retry.attempts"
  | .held => "events.held"
  | .replayed => "events.replayed"
  | .lettersRefused => "dlq.refused"
  | .lettersWaiting => "dlq.size"
  | .noticesDelivered => "notifications.delivered"
  | .noticesSkipped => "notifications.duplicates_skipped"
  | .actions => "store.actions.total"
  | .effects => "store.effects.executed"

def labels : Metric → List (String × String)
  | .operations operation => [("operation", operation.text)]
  | .refusals operation code => [("operation", operation.text), ("reason", code)]
  | .auditEntries signed => [("seal", if signed then "signed" else "unsigned")]
  | .published kind => [("event_type", kind)]
  | .retryAttempts activity => [("operation", activity)]
  | .effects => [("type", "future")]
  | _ => []

def text (metric : Metric) : String :=
  match metric.labels with
  | [] => metric.name
  | labels => metric.name ++ "\x7b" ++
      ",".intercalate (labels.map fun label => label.1 ++ "=" ++ label.2) ++ "\x7d"

end Metric

/-- The counts. -/
abbrev Tally := Table Metric Nat

namespace Tally

def count (tally : Tally) (metric : Metric) : Nat := (tally.get? metric).getD 0

def add (tally : Tally) (metric : Metric) (times : Nat) : Tally :=
  tally.set metric (tally.count metric + times)

def bump (tally : Tally) (metric : Metric) : Tally := tally.add metric 1

def entries (tally : Tally) : List (Metric × Nat) := tally.filter fun entry => entry.2 != 0

end Tally

/-- Why the counts cannot be served. -/
inductive ExporterError where
  | notBuilt (reason : String)
  | notInstalled (reason : String)
deriving DecidableEq, Repr

def ExporterError.message : ExporterError → String
  | .notBuilt reason => "Failed to build metrics exporter: " ++ reason
  | .notInstalled reason => "Failed to install metrics recorder: " ++ reason

end BenefitCasework

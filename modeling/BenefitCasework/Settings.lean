import BenefitCasework.Audit.Signer
import BenefitCasework.Delivery.Retry
import BenefitCasework.Json.Form
import BenefitCasework.Network.Address
import BenefitCasework.Text.Blank
import BenefitCasework.Text.Utf8

/-!
Contract: what can be set before the office opens.

Owns:
- `Settings`, for the audit log, the delivery of events and the monitoring;
- `Settings.ofVariables`, the settings that named variables give. A variable
  that is missing, or that is no number or truth value where one is expected,
  leaves the standard setting;
- `Settings.check`, which refuses settings that delivery cannot work with;
- `SettingsError`, the refusals.

Does not own: where the variables come from.
-/

namespace BenefitCasework

/-- The signing of audit entries. An empty key leaves them unsigned. -/
structure AuditSettings where
  signingKey : String
  keyId : String
deriving DecidableEq, Repr

/-- The delivery of events, times in milliseconds. -/
structure DeliverySettings where
  topic : String
  maxRetries : UInt32
  initialDelay : UInt64
  maxDelay : UInt64
  letterCapacity : UInt64
deriving DecidableEq, Repr

/-- What is written to the log, and where metrics are served: at an address,
under a number. -/
structure MonitoringSettings where
  logLevel : String
  metricsEnabled : Bool
  metricsHost : String
  metricsNumber : UInt16
deriving DecidableEq, Repr

/-- All settings. -/
structure Settings where
  audit : AuditSettings
  delivery : DeliverySettings
  monitoring : MonitoringSettings
deriving DecidableEq, Repr

/-- Why settings are refused. -/
inductive SettingsError where
  | noRetries
  | noInitialDelay
  | delaysReversed (maxDelay initialDelay : UInt64)
  | noLetterCapacity
  | invalidHost
deriving DecidableEq, Repr

def SettingsError.parts : SettingsError → String × String
  | .noRetries => ("EVENT_PUBLISH_MAX_RETRIES", "must be at least 1")
  | .noInitialDelay => ("EVENT_PUBLISH_INITIAL_DELAY_MS", "must be positive")
  | .delaysReversed maxDelay initialDelay => ("EVENT_PUBLISH_MAX_DELAY_MS",
      Text.natural maxDelay.toNat ++ " is below the initial delay of " ++
        Text.natural initialDelay.toNat)
  | .noLetterCapacity => ("EVENT_DLQ_MAX_SIZE", "must be at least 1")
  | .invalidHost => ("METRICS_HOST", "invalid IP address syntax")

def SettingsError.message (reason : SettingsError) : String :=
  "invalid value for " ++ reason.parts.1 ++ ": " ++ reason.parts.2

namespace Settings

/-- A whole number below a bound, with spaces around it. -/
def naturalValue? (bound : Nat) (text : String) : Option Nat := Text.bounded? bound (Text.trim text)

def flagValue? (text : String) : Option Bool :=
  match Text.trim text with
  | "true" => some true
  | "false" => some false
  | _ => none

def ofVariables (valueOf? : String → Option String) : Settings :=
  let text (name standard : String) := (valueOf? name).getD standard
  let natural (bound : Nat) (name : String) (standard : Nat) :=
    ((valueOf? name).bind (naturalValue? bound)).getD standard
  { audit :=
      { signingKey := text "AUDIT_SIGNING_KEY" "dev-audit-signing-key-change-me"
        keyId := text "AUDIT_KEY_ID" "audit-key-1" }
    delivery :=
      { topic := text "EVENT_TOPIC" "benefit-request-events"
        maxRetries := UInt32.ofNat (natural UInt32.size "EVENT_PUBLISH_MAX_RETRIES" 5)
        initialDelay := UInt64.ofNat (natural UInt64.size "EVENT_PUBLISH_INITIAL_DELAY_MS" 100)
        maxDelay := UInt64.ofNat (natural UInt64.size "EVENT_PUBLISH_MAX_DELAY_MS" 10000)
        letterCapacity := UInt64.ofNat (natural UInt64.size "EVENT_DLQ_MAX_SIZE" 1000) }
    monitoring :=
      { logLevel := text "RUST_LOG" "info"
        metricsEnabled := ((valueOf? "METRICS_ENABLED").bind flagValue?).getD false
        metricsHost := text "METRICS_HOST" "0.0.0.0"
        metricsNumber := UInt16.ofNat (natural UInt16.size "METRICS_PORT" 9090) } }

def standard : Settings := ofVariables fun _ => none

def metricsAddress (settings : Settings) : Except SettingsError Address :=
  match Address.parse? settings.monitoring.metricsHost with
  | some address => .ok address
  | none => .error .invalidHost

/-- Refuses settings that delivery cannot work with. The first fault counts;
the address matters only while metrics are served. -/
def check (settings : Settings) : Except SettingsError Unit :=
  let delivery := settings.delivery
  if delivery.maxRetries = 0 then .error .noRetries
  else if delivery.initialDelay = 0 then .error .noInitialDelay
  else if delivery.maxDelay < delivery.initialDelay then
    .error (.delaysReversed delivery.maxDelay delivery.initialDelay)
  else if delivery.letterCapacity = 0 then .error .noLetterCapacity
  else if settings.monitoring.metricsEnabled then
    match settings.metricsAddress with
    | .ok _ => .ok ()
    | .error reason => .error reason
  else .ok ()

/-- The address at which metrics are served, with the number. -/
def metricsEndpoint (settings : Settings) : Except SettingsError String :=
  match settings.metricsAddress with
  | .ok address => .ok (address.endpoint settings.monitoring.metricsNumber)
  | .error reason => .error reason

def retryPolicy (settings : Settings) : RetryPolicy :=
  { RetryPolicy.standard with
    maxRetries := settings.delivery.maxRetries
    initialDelay := .ofMilliseconds settings.delivery.initialDelay
    maxDelay := .ofMilliseconds settings.delivery.maxDelay }

/-- The signer of audit entries. -/
def signer (settings : Settings) : Signer :=
  ⟨settings.audit.keyId, some (Text.utf8 settings.audit.signingKey)⟩

end Settings

def AuditSettings.text (settings : AuditSettings) : String :=
  "AuditConfig \x7b signing_key: \"<redacted>\", key_id: " ++ Text.quoted settings.keyId ++ " \x7d"

instance : JsonForm AuditSettings where
  write settings := .object [("signing_key", Json.of settings.signingKey),
    ("key_id", Json.of settings.keyId)]
  read? value := do
    match ← Json.slots? ["signing_key", "key_id"] value with
    | [signingKey, keyId] => return ⟨← Json.required signingKey, ← Json.required keyId⟩
    | _ => none

instance : JsonForm DeliverySettings where
  write settings := .object [("topic", Json.of settings.topic),
    ("max_retries", Json.of settings.maxRetries),
    ("initial_delay_ms", Json.of settings.initialDelay),
    ("max_delay_ms", Json.of settings.maxDelay),
    ("dlq_max_size", Json.of settings.letterCapacity)]
  read? value := do
    match ← Json.slots? ["topic", "max_retries", "initial_delay_ms", "max_delay_ms",
        "dlq_max_size"] value with
    | [topic, maxRetries, initialDelay, maxDelay, letterCapacity] =>
        return ⟨← Json.required topic, ← Json.required maxRetries, ← Json.required initialDelay,
          ← Json.required maxDelay, ← Json.required letterCapacity⟩
    | _ => none

instance : JsonForm MonitoringSettings where
  write settings := .object [("log_level", Json.of settings.logLevel),
    ("metrics_enabled", Json.of settings.metricsEnabled),
    ("metrics_host", Json.of settings.metricsHost),
    ("metrics_port", Json.of settings.metricsNumber)]
  read? value := do
    match ← Json.slots? ["log_level", "metrics_enabled", "metrics_host", "metrics_port"] value with
    | [logLevel, metricsEnabled, metricsHost, metricsNumber] =>
        return ⟨← Json.required logLevel, ← Json.required metricsEnabled,
          ← Json.required metricsHost, ← Json.required metricsNumber⟩
    | _ => none

instance : JsonForm Settings where
  write settings := .object [("audit", Json.of settings.audit),
    ("events", Json.of settings.delivery), ("observability", Json.of settings.monitoring)]
  read? value := do
    match ← Json.slots? ["audit", "events", "observability"] value with
    | [audit, delivery, monitoring] =>
        return ⟨← Json.required audit, ← Json.required delivery, ← Json.required monitoring⟩
    | _ => none

end BenefitCasework

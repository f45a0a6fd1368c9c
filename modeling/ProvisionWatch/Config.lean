import ProvisionWatch.Scope

/-!
# Configuration

The settings of the monitor and of its probe server.  They are read from named
texts; a text that is missing or cannot be read leaves its setting at the
default.
-/

namespace ProvisionWatch

/-- The settings of the monitor. -/
structure Config where
  /-- How long a subscription lasts when it does not say so. -/
  defaultTimeout : Duration
  /-- How long before the deadline a warning is given. -/
  timeoutWarning : Duration
  /-- How often the timer of a subscription ticks. -/
  tickInterval : Duration
  stallThreshold : Duration
  perCallerLimit : Nat
  globalLimit : Nat
  eventRetentionCount : Nat
  eventRetention : Duration
  /-- How many listed events a new subscription starts with. -/
  eventSnapshotLimit : Nat
  /-- The patterns of the namespaces that may be read; none of them admits all. -/
  allowedNamespaces : List String
deriving DecidableEq, Repr

/-- The settings of the probe server. -/
structure ServerConfig where
  /-- The port of the probes; none is served on port zero. -/
  metricsPort : Nat
deriving DecidableEq, Repr

namespace Config

/-- The settings that hold unless others are given. -/
def standard : Config :=
  { defaultTimeout := .ofSeconds 3600
    timeoutWarning := .ofSeconds 300
    tickInterval := .ofSeconds 30
    stallThreshold := .ofSeconds 600
    perCallerLimit := 10
    globalLimit := 100
    eventRetentionCount := 50
    eventRetention := .ofSeconds 120
    eventSnapshotLimit := 20
    allowedNamespaces := [] }

/-- How many and how old events are retained. -/
def retention (c : Config) : Retention :=
  { count := c.eventRetentionCount, age := c.eventRetention.toSpan }

end Config

namespace ServerConfig

/-- The port that is served unless another is given. -/
def standard : ServerConfig :=
  { metricsPort := 5000 }

/-- Whether probes are served. -/
def isEnabled (c : ServerConfig) : Bool :=
  c.metricsPort != 0

end ServerConfig

/-! ## Reading settings -/

/-- Named texts; a name without a text is not set. -/
abbrev Settings := String → Option String

namespace Settings

/-- A number up to a greatest one, with blanks around it. -/
def number (settings : Settings) (greatest : Nat) (name : String) (default : Nat) : Nat :=
  let value := (settings name).bind fun raw => Text.readUnsigned (Text.trimChars raw.toList)
  (value.filter fun n => n ≤ greatest).getD default

/-- A number of 64 bits. -/
def count (settings : Settings) (name : String) (default : Nat) : Nat :=
  settings.number 18446744073709551615 name default

/-- The entries between commas, without blanks around them; blank entries are dropped. -/
def entries (raw : String) : List String :=
  ((Text.pieces ',' raw.toList).map Text.trimChars).filterMap fun entry =>
    if entry.isEmpty then none else some (String.ofList entry)

/-- A list of texts. -/
def list (settings : Settings) (name : String) : List String :=
  ((settings name).map entries).getD []

/-- A number of seconds. -/
def seconds (settings : Settings) (name : String) (default : Duration) : Duration :=
  .ofSeconds (settings.count name default.wholeSeconds)

end Settings

/-- Read the settings of the monitor.  The timer ticks at most once a second. -/
def Config.ofSettings (settings : Settings) : Config :=
  let standard := Config.standard
  { defaultTimeout := settings.seconds "DEFAULT_TIMEOUT_SECS" standard.defaultTimeout
    timeoutWarning := settings.seconds "TIMEOUT_WARNING_SECS" standard.timeoutWarning
    tickInterval :=
      .ofSeconds (max 1
        (settings.count "TICK_INTERVAL_SECS" standard.tickInterval.wholeSeconds))
    stallThreshold := settings.seconds "STALL_THRESHOLD_SECS" standard.stallThreshold
    perCallerLimit := settings.count "PER_CALLER_SUBSCRIPTION_LIMIT" standard.perCallerLimit
    globalLimit := settings.count "GLOBAL_SUBSCRIPTION_LIMIT" standard.globalLimit
    eventRetentionCount := settings.count "EVENT_RETENTION_COUNT" standard.eventRetentionCount
    eventRetention := settings.seconds "EVENT_RETENTION_SECS" standard.eventRetention
    eventSnapshotLimit := settings.count "EVENT_SNAPSHOT_LIMIT" standard.eventSnapshotLimit
    allowedNamespaces := settings.list "ALLOWED_NAMESPACES" }

/-- Read the settings of the probe server. -/
def ServerConfig.ofSettings (settings : Settings) : ServerConfig :=
  { metricsPort := settings.number 65535 "METRICS_PORT" ServerConfig.standard.metricsPort }

end ProvisionWatch

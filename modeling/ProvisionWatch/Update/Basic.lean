import ProvisionWatch.Classification

/-!
# Updates

The unit of progress that an observer sees.  An update is terminal when nothing
follows it.
-/

namespace ProvisionWatch

/-- One piece of progress. -/
structure Update where
  timestamp : Instant
  phase : Phase
  /-- A rough estimate of completion in percent. -/
  progress : Option UInt8
  message : String
  reason : String
  source : Source
  severity : Severity
  relatedObject : Option ObjectRef
  conditions : List Condition
  terminal : Bool
  cluster : Option ClusterInfo
  services : List Service
deriving DecidableEq

namespace Update

/-- An update without context. -/
def new (timestamp : Instant) (phase : Phase) (message reason : String) (source : Source) :
    Update :=
  { timestamp := timestamp
    phase := phase
    progress := none
    message := message
    reason := reason
    source := source
    severity := phase.severity
    relatedObject := none
    conditions := []
    terminal := phase.isTerminal
    cluster := none
    services := [] }

/-- The update with the context of a snapshot. -/
def withSnapshot (u : Update) (s : Snapshot) : Update :=
  { u with
    conditions := s.conditions
    cluster := some s.cluster
    services := s.services }

/-- The update with the context of a snapshot, if there is one. -/
def withSnapshot? (u : Update) : Option Snapshot → Update
  | none => u
  | some s => u.withSnapshot s

/-- The update with another severity. -/
def withSeverity (u : Update) (severity : Severity) : Update :=
  { u with severity := severity }

/-- The update with an estimate of completion. -/
def withProgress (u : Update) (progress : Option UInt8) : Update :=
  { u with progress := progress }

/-- The update as the last one, whatever its phase. -/
def ending (u : Update) : Update :=
  { u with terminal := true }

/-- The update that follows from a snapshot and recent events. -/
def ofSnapshot (s : Snapshot) (events : List Event) (now : Instant) : Update :=
  let phase := s.classify events
  let summary := s.summarize phase
  (((new now phase summary.message summary.reason .condition).withSeverity
    summary.severity).withProgress (phase.estimate s.conditions)).withSnapshot s

end Update
end ProvisionWatch

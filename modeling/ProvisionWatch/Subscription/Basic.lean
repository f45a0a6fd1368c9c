import ProvisionWatch.Deployment.Basic
import ProvisionWatch.Scope
import ProvisionWatch.Update.Basic

/-!
# Subscriptions

All that is kept for one watched deployment: its scope, the last known
snapshot, its phase, what was said last, and what the timer needs.

Main results:

- Theorem `notice_terminal`: a notice does not end the stream because of the
  phase it carries.
- Theorem `notice_withContext`: a notice carries the last known snapshot.
-/

namespace ProvisionWatch

/-- How long a subscription lasts, and when its timer speaks up. -/
structure Timing where
  timeout : Duration
  /-- How long before the deadline a warning is given. -/
  warningLead : Duration
  /-- How long conditions may stay the same before that counts as a stall. -/
  stallThreshold : Duration
deriving DecidableEq, Repr

/-- What an update said, as far as repeating it would be pointless. -/
structure Said where
  phase : Phase
  message : String
  reason : String
deriving DecidableEq, Repr

/-- What an update says. -/
def Update.said (u : Update) : Said :=
  { phase := u.phase, message := u.message, reason := u.reason }

/-- The state of one subscription. -/
structure Subscription where
  caller : String
  scope : Scope
  /-- The deployment as it was last seen. -/
  lastSnapshot : Option Snapshot
  phase : Phase
  /-- What was said last, if anything was. -/
  lastSaid : Option Said
  timeout : Duration
  deadline : Instant
  warningLead : Span
  warned : Bool
  stallThreshold : Span
  /-- When the conditions last changed. -/
  lastChange : Instant
  stallReported : Bool
deriving DecidableEq

namespace Subscription

/-- A subscription that starts now.  A deadline out of range is the last instant. -/
def start (caller : String) (scope : Scope) (timing : Timing) (now : Instant) : Subscription :=
  { caller := caller
    scope := scope
    lastSnapshot := none
    phase := .unknown
    lastSaid := none
    timeout := timing.timeout
    deadline := (now.add? timing.timeout.toSpan).getD .latest
    warningLead := timing.warningLead.toSpan
    warned := false
    stallThreshold := timing.stallThreshold.toSpan
    lastChange := now
    stallReported := false }

/-- The deployment that is watched. -/
def target (s : Subscription) : Target :=
  s.scope.target

/-! ## Notices -/

/-- A notice of the monitor itself.  It never ends the stream because of the phase it carries. -/
def notice (s : Subscription) (message reason : String) (severity : Severity) (now : Instant) :
    Update :=
  { ((Update.new now s.phase message reason .system).withSeverity severity) with
    terminal := false }.withSnapshot? s.lastSnapshot

/-- The deployment was deleted. -/
def deletedNotice (s : Subscription) (now : Instant) : Update :=
  (s.notice ("ClusterDeployment " ++ s.target.text ++ " was deleted") "ResourceDeleted" .warning
    now).ending

/-- The stream of events failed. -/
def eventStreamNotice (s : Subscription) (error : String) (now : Instant) : Update :=
  s.notice ("Event stream error, continuing without event context: " ++ error)
    "EventStreamError" .warning now

/-- The watch of the deployment failed for good. -/
def watchFailedNotice (s : Subscription) (error : String) (now : Instant) : Update :=
  (s.notice ("Resource watch failed: " ++ error) "WatchFailed" .error now).ending

/-- The watch of the deployment ended by itself. -/
def watchClosedNotice (s : Subscription) (now : Instant) : Update :=
  (s.notice "Resource watch closed unexpectedly" "WatchClosed" .warning now).ending

/-- The deadline has come. -/
def expiredNotice (s : Subscription) (now : Instant) : Update :=
  (s.notice
    ("Monitoring window of " ++ Text.natText s.timeout.wholeSeconds ++
      "s elapsed; subscribe again to keep watching")
    "MonitoringTimeout" .warning now).ending

/-- The deadline is near. -/
def warningNotice (s : Subscription) (now : Instant) : Update :=
  let remaining := (s.deadline.since now).wholeSeconds.toNat
  s.notice ("Monitoring window ends in " ++ Text.natText remaining ++ "s")
    "MonitoringTimeoutWarning" .warning now

/-- A notice never ends the stream. -/
@[simp]
theorem notice_terminal (s : Subscription) (message reason : String) (severity : Severity)
    (now : Instant) : (s.notice message reason severity now).terminal = false := by
  unfold notice
  cases s.lastSnapshot <;> rfl

/-- A notice comes with the context of the last snapshot. -/
theorem notice_withContext (s : Subscription) (message reason : String) (severity : Severity)
    (now : Instant) {snapshot : Snapshot} (h : s.lastSnapshot = some snapshot) :
    (s.notice message reason severity now).cluster = some snapshot.cluster ∧
      (s.notice message reason severity now).conditions = snapshot.conditions ∧
      (s.notice message reason severity now).services = snapshot.services := by
  unfold notice
  rw [h]
  exact ⟨rfl, rfl, rfl⟩

end Subscription
end ProvisionWatch

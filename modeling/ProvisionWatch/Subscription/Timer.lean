import ProvisionWatch.Subscription.Basic

/-!
# The timer of a subscription

Every tick prunes the retained events, looks for a stall and enforces the
deadline.  The warning before the deadline is given once; a stall is reported
once until the conditions change.
-/

namespace ProvisionWatch

/-- What a tick has to say. -/
inductive TickOutcome where
  | carryOn
  | warning (update : Update)
  | expired (update : Update)
deriving DecidableEq

/-- The outcome of a tick, and whether it found a stall. -/
structure Ticked where
  outcome : TickOutcome
  stalled : Bool
deriving DecidableEq

namespace Subscription

/-- When the warning is due.  If that is out of range it is due at once. -/
def warningTime (s : Subscription) : Instant :=
  (s.deadline.sub? s.warningLead).getD .earliest

/-- Whether a stall is to be reported now. -/
def stallsAt (s : Subscription) (now : Instant) : Bool :=
  !s.stallReported && s.stallThreshold ≤ now.since s.lastChange

/-- The deadline, then the warning. -/
def checkDeadline (s : Subscription) (now : Instant) : Subscription × TickOutcome :=
  if s.deadline ≤ now then
    (s, .expired (s.expiredNotice now))
  else if !s.warned && s.warningTime ≤ now then
    ({ s with warned := true }, .warning (s.warningNotice now))
  else
    (s, .carryOn)

/-- One tick. -/
def tick (s : Subscription) (now : Instant) : Subscription × Except RangeFault Ticked :=
  match s.scope.prune now with
  | (scope, .error fault) => ({ s with scope := scope }, .error fault)
  | (scope, .ok ()) =>
      let s := { s with scope := scope }
      let stalled := s.stallsAt now
      let (s, outcome) := { s with stallReported := s.stallReported || stalled }.checkDeadline now
      (s, .ok { outcome := outcome, stalled := stalled })

end Subscription
end ProvisionWatch

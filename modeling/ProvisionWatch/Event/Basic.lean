import ProvisionWatch.Condition
import ProvisionWatch.Time.Instant

/-!
# Events

What the cluster says about an object: a reason, a message and up to three
times.  An event counts as having happened at the first of its times that is
set.
-/

namespace ProvisionWatch

/-- The object an event is about. -/
structure ObjectRef where
  kind : String
  name : String
  ns : Option String
deriving DecidableEq, Repr, Inhabited

/-- An event of the cluster. -/
structure Event where
  involved : ObjectRef
  reason : String
  message : String
  /-- `Normal` or `Warning`, in any letter case. -/
  type : String
  eventTime : Option Instant
  lastSeen : Option Instant
  firstSeen : Option Instant
deriving DecidableEq

namespace Event

/-- When the event happened. -/
def timestamp (e : Event) : Option Instant :=
  e.eventTime.or (e.lastSeen.or e.firstSeen)

/-- Whether the event is a warning. -/
def isWarning (e : Event) : Bool :=
  Text.sameLetters e.type "warning"

/-- The kind of object whose events tell about add-on services. -/
def serviceSetKind : String := "ServiceSet"

/-- The reasons that tell of add-on services being installed. -/
def installingReasons : List String :=
  ["ServiceInstalling", "ServicesInstalling", "ServiceSetInstalling"]

/-- Whether the event is evidence that add-on services are being installed. -/
def isInstalling (e : Event) : Bool :=
  e.involved.kind == serviceSetKind && installingReasons.contains e.reason

/-- An event is no later than another one; undated events come first. -/
def noLater (a b : Event) : Bool :=
  match a.timestamp, b.timestamp with
  | none, _ => true
  | some _, none => false
  | some s, some t => s ≤ t

end Event
end ProvisionWatch

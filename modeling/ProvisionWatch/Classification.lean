import ProvisionWatch.Event.Basic
import ProvisionWatch.Phase
import ProvisionWatch.Snapshot

/-!
# Classification

The phase of a deployment follows from its snapshot and the recent events
alone, never from an earlier phase: the first rule that applies decides.  The
estimate of completion and the text follow from the phase.

Main results:

- Theorem `estimate_ne_zero`: no estimate is never shown as zero.
-/

namespace ProvisionWatch
namespace Snapshot

/-! ## The phase -/

/-- The reasons beside a missing readiness that mean provisioning has given up. -/
def failureReasons : List String :=
  ["Failed", "ProvisioningFailed", "DeploymentFailed"]

/-- Whether a milestone is reported as reached. -/
def reached (s : Snapshot) (m : Milestone) : Bool :=
  (s.milestone? m).any Condition.isTrue

/-- Whether a milestone is reported as not reached. -/
def pending (s : Snapshot) (m : Milestone) : Bool :=
  (s.milestone? m).any Condition.isFalse

/-- Whether anything is reported about a milestone. -/
def reports (s : Snapshot) (m : Milestone) : Bool :=
  (s.milestone? m).isSome

/-- Whether the deployment reports failure: in its own phase, by a condition, or by the reason it
gives for not being ready. -/
def hasFailed (s : Snapshot) : Bool :=
  s.statusPhase.any (Text.sameLetters · "failed") ||
    s.reached .failed ||
    (s.milestone? .ready).any fun c => c.isFalse && failureReasons.contains c.reason

/-- The phase of a deployment in the light of recent events. -/
def classify (s : Snapshot) (events : List Event) : Phase :=
  if s.hasFailed then .failed
  else if s.reached .ready then .ready
  else if events.any Event.isInstalling then .installing
  else if s.pending .workers && !s.pending .infrastructure && !s.pending .controlPlane then
    .scaling
  else if s.pending .controlPlane && !s.pending .infrastructure then .bootstrapping
  else if s.pending .infrastructure then .provisioning
  else if s.reports .workers || s.reached .controlPlane then .scaling
  else if s.reached .infrastructure then .bootstrapping
  else if s.conditions.any Condition.isRecognised then .unknown
  else .initializing

end Snapshot

/-! ## The estimate of completion -/

/-- A row of the table of estimates: in a phase, a condition with a status backs a percentage. -/
structure Estimate where
  phase : Phase
  milestone : Milestone
  status : String
  percent : UInt8

/-- The table of estimates. -/
def Estimate.table : List Estimate :=
  [ ⟨.provisioning, .infrastructure, "False", 25⟩,
    ⟨.bootstrapping, .controlPlane, "False", 50⟩,
    ⟨.scaling, .workers, "True", 85⟩,
    ⟨.installing, .workers, "True", 90⟩,
    ⟨.ready, .ready, "True", 100⟩ ]

/-- Whether a row applies. -/
def Estimate.applies (row : Estimate) (phase : Phase) (conditions : List Condition) : Bool :=
  row.phase == phase && conditions.any fun c =>
    c.type == row.milestone.conditionType && Text.sameLetters c.status row.status

/-- The estimate of completion in percent: what the rows that apply agree on. -/
def Phase.estimate (phase : Phase) (conditions : List Condition) : Option UInt8 :=
  match Estimate.table.filter fun row => row.applies phase conditions with
  | [] => none
  | row :: rest => if rest.all fun other => other.percent == row.percent then some row.percent
      else none

/-- No estimate is ever shown as zero. -/
theorem Phase.estimate_ne_zero (phase : Phase) (conditions : List Condition) :
    phase.estimate conditions ≠ some 0 := by
  unfold Phase.estimate
  split
  · simp
  · rename_i row rest h
    have hmem : row ∈ Estimate.table :=
      (List.mem_filter.mp (h ▸ List.mem_cons_self)).1
    split
    · simp only [Estimate.table, List.mem_cons, List.not_mem_nil, or_false] at hmem
      rcases hmem with rfl | rfl | rfl | rfl | rfl <;> simp
    · simp

/-! ## The text -/

/-- A phase in words. -/
structure Summary where
  message : String
  reason : String
  severity : Severity
deriving DecidableEq, Repr

/-- The severity that goes with a phase. -/
def Phase.severity (phase : Phase) : Severity :=
  if phase = .failed then .error else .info

namespace Snapshot

/-- The condition that a phase is explained by. -/
def drivingCondition (s : Snapshot) : Phase → Option Condition
  | .failed => ((s.milestone? .failed).filter Condition.isTrue).or (s.milestone? .ready)
  | .ready => s.milestone? .ready
  | .provisioning => s.milestone? .infrastructure
  | .bootstrapping => (s.milestone? .controlPlane).or (s.milestone? .infrastructure)
  | .scaling => s.milestone? .workers
  | .installing => none
  | .initializing => none
  | .unknown => s.milestone? .ready

/-- What is said when no condition says anything. -/
def defaultMessage (s : Snapshot) : Phase → String
  | .failed => "Cluster deployment failed"
  | .ready => "Cluster is ready"
  | .provisioning => "Provisioning infrastructure"
  | .bootstrapping => "Bootstrapping control plane"
  | .scaling =>
      if s.reached .workers then "Worker nodes available, waiting for cluster to become ready"
      else "Scaling worker nodes"
  | .installing => "Installing add-on services"
  | .initializing => "Waiting for provisioning to start"
  | .unknown => "Waiting for cluster status"

/-- A text, or another one when there is none. -/
def orDefault (text : Option String) (default : String) : String :=
  (text.filter fun t => t != "").getD default

/-- The phase in words. -/
def summarize (s : Snapshot) (phase : Phase) : Summary :=
  let driving := s.drivingCondition phase
  { message := orDefault (driving.map Condition.message) (s.defaultMessage phase)
    reason := orDefault (driving.map Condition.reason) phase.text
    severity := phase.severity }

end Snapshot
end ProvisionWatch

import ProvisionWatch.Proofs.Classification.Reports

/-!
# The priority of phases

A classification tests the later stages of a provisioning first, each with a guard
that no earlier one is pending, and then goes over the stages again to infer the next
one from those that are complete.  What it comes to is a list of clauses of which the
first that holds decides: failure, readiness, evidence of installation, the earliest
stage that is pending, and then the latest that is complete.

Main results:

- Theorem `priority_eq`: each clause is one test of a classification.
- Theorem `classify_by_priority`: the first clause that holds decides the phase.
-/

namespace ProvisionWatch

/-! ## Clauses -/

/-- A clause of a priority: what has to hold, and the phase that it decides for. -/
structure Clause where
  holds : Prop
  phase : Phase

/-- The first clause that holds decides for a phase. -/
def Clause.Decide : List Clause → Phase → Prop
  | [], _ => False
  | clause :: rest, phase =>
      (clause.holds ∧ phase = clause.phase) ∨ (¬ clause.holds ∧ Decide rest phase)

namespace Snapshot

/-- The priority of phases, each clause in terms of the conditions and the events themselves. -/
def priority (s : Snapshot) (events : List Event) : List Clause :=
  [ ⟨s.ReportsFailure, .failed⟩,
    ⟨Condition.IsReported "Ready" "True" s.conditions, .ready⟩,
    ⟨∃ e ∈ events, e.involved.kind = "ServiceSet" ∧
      e.reason ∈ ["ServiceInstalling", "ServicesInstalling", "ServiceSetInstalling"], .installing⟩,
    ⟨Condition.IsReported "InfrastructureReady" "False" s.conditions, .provisioning⟩,
    ⟨Condition.IsReported "ControlPlaneInitialized" "False" s.conditions, .bootstrapping⟩,
    ⟨Condition.IsReported "WorkersAvailable" "False" s.conditions, .scaling⟩,
    ⟨(∃ c ∈ s.conditions, c.type = "WorkersAvailable") ∨
      Condition.IsReported "ControlPlaneInitialized" "True" s.conditions, .scaling⟩,
    ⟨Condition.IsReported "InfrastructureReady" "True" s.conditions, .bootstrapping⟩,
    ⟨∀ c ∈ s.conditions, c.type ∉ ["Ready", "InfrastructureReady", "ControlPlaneInitialized",
      "WorkersAvailable", "Failed"], .initializing⟩,
    ⟨True, .unknown⟩ ]

/-! ## The clauses as tests -/

variable {s : Snapshot} {events : List Event} {phase : Phase}

/-- Where no type is repeated, each clause is one test of a classification. -/
theorem priority_eq (h : Condition.Distinct s.conditions) (events : List Event) :
    s.priority events =
      [ ⟨s.hasFailed = true, .failed⟩,
        ⟨s.reached .ready = true, .ready⟩,
        ⟨events.any Event.isInstalling = true, .installing⟩,
        ⟨s.pending .infrastructure = true, .provisioning⟩,
        ⟨s.pending .controlPlane = true, .bootstrapping⟩,
        ⟨s.pending .workers = true, .scaling⟩,
        ⟨s.reports .workers = true ∨ s.reached .controlPlane = true, .scaling⟩,
        ⟨s.reached .infrastructure = true, .bootstrapping⟩,
        ⟨s.conditions.any Condition.isRecognised = false, .initializing⟩,
        ⟨True, .unknown⟩ ] := by
  simp only [hasFailed_iff h, reached_iff h, pending_iff h, reports_iff, Event.any_isInstalling_iff,
    Condition.any_isRecognised_eq_false_iff]
  rfl

/-- Where no type is repeated, the phase of a deployment is the one that the first clause of the
priority decides for: no later clause counts, whatever it says. -/
theorem classify_by_priority (h : Condition.Distinct s.conditions) :
    s.classify events = phase ↔ Clause.Decide (s.priority events) phase := by
  rw [priority_eq h]
  simp only [Clause.Decide, not_true, and_false, or_false]
  -- The guards of the later stages deny just that an earlier one is pending, so it is the earliest
  -- pending stage that decides, whichever is tested first.
  unfold classify
  grind

/-- Workers, control plane and infrastructure are all pending, the workers in front: the earliest
stage decides.  Being ready is denied, but for a reason that means no failure. -/
theorem classify_by_priority_of_pending_stages :
    let s : Snapshot :=
      { Snapshot.blank with
        statusPhase := some "Provisioning"
        conditions :=
          [ ⟨"WorkersAvailable", "FALSE", "", ""⟩, ⟨"Ready", "false", "Waiting", ""⟩,
            ⟨"ControlPlaneInitialized", "False", "", ""⟩, ⟨"Failed", "False", "", ""⟩,
            ⟨"InfrastructureReady", "fAlSe", "", ""⟩ ] }
    let e : Event := ⟨⟨"Machine", "a-x", some "ns"⟩, "ServiceInstalling", "", "Normal",
      none, none, none⟩
    Condition.Distinct s.conditions ∧ s.classify [e] = .provisioning ∧
      Clause.Decide (s.priority [e]) .provisioning := by
  intro s e
  have hdistinct : Condition.Distinct s.conditions := by
    unfold Condition.Distinct
    decide
  have hphase : s.classify [e] = .provisioning := by
    decide
  exact ⟨hdistinct, hphase, (classify_by_priority hdistinct).mp hphase⟩

end Snapshot
end ProvisionWatch

import ProvisionWatch.Proofs.Classification.Reports
import ProvisionWatch.Update.Basic

/-!
# What an estimate tells

The phase of a deployment is decided by the first condition of a type, and the estimate
looks for any condition of the type of a row.  As a snapshot of a deployment repeats no
type, the two never disagree: a deployment that is being provisioned has an
infrastructure that is not ready, and one that is ready says so.  In the phases between
the estimate tells of one more condition.

Main results:

- Theorem `Phase.estimate_eq_some_iff`: an estimate is that of a row which applies.
- Theorem `Phase.estimate_of_decided`: the estimates without what the phase says already.
- Theorem `progress_agrees_with_phase`: which estimate an update has, in which phase and on
  which condition.
-/

namespace ProvisionWatch

/-- Rows of one phase agree, so an estimate is the percentage of a row that applies. -/
theorem Phase.estimate_eq_some_iff {phase : Phase} {conditions : List Condition}
    {percent : UInt8} :
    phase.estimate conditions = some percent ↔
      ∃ row ∈ Estimate.table, row.applies phase conditions = true ∧ row.percent = percent := by
  have hagree : ∀ row ∈ Estimate.table, ∀ other ∈ Estimate.table,
      row.phase = other.phase → row.percent = other.percent := by
    decide
  have hrows : ∀ row, row ∈ Estimate.table.filter (fun row => row.applies phase conditions) ↔
      row ∈ Estimate.table ∧ row.applies phase conditions = true := fun row => List.mem_filter
  unfold estimate
  split
  · rename_i hnone
    rw [hnone] at hrows
    simp only [reduceCtorEq, false_iff]
    rintro ⟨row, hrow, happlies, -⟩
    exact List.not_mem_nil ((hrows row).mpr ⟨hrow, happlies⟩)
  · rename_i row rest hsome
    rw [hsome] at hrows
    obtain ⟨hrow, happlies⟩ := (hrows row).mp List.mem_cons_self
    have hsame : ∀ other ∈ Estimate.table, other.applies phase conditions = true →
        other.percent = row.percent := by
      intro other hother hothers
      refine hagree other hother row hrow ?_
      rw [(Estimate.applies_iff.mp hothers).1, (Estimate.applies_iff.mp happlies).1]
    rw [if_pos]
    · rw [Option.some.injEq]
      constructor
      · rintro rfl
        exact ⟨row, hrow, happlies, rfl⟩
      · rintro ⟨other, hother, hothers, rfl⟩
        exact (hsame other hother hothers).symm
    · rw [List.all_eq_true]
      intro other hother
      obtain ⟨hmem, hothers⟩ := (hrows other).mp (List.mem_cons_of_mem row hother)
      exact beq_iff_eq.mpr (hsame other hmem hothers)

namespace Snapshot

variable {s : Snapshot} {events : List Event}

theorem pending_of_provisioning (h : s.classify events = .provisioning) :
    s.pending .infrastructure = true := by
  unfold classify at h
  grind

theorem reached_of_ready (h : s.classify events = .ready) : s.reached .ready = true := by
  unfold classify at h
  grind

end Snapshot

/-- Where the conditions have decided for one of two phases, its row need not be asked of them. -/
theorem Phase.estimate_of_decided {phase : Phase} {conditions : List Condition}
    (hprovisioning : phase = .provisioning →
      Condition.IsReported "InfrastructureReady" "False" conditions)
    (hready : phase = .ready → Condition.IsReported "Ready" "True" conditions) (percent : UInt8) :
    phase.estimate conditions = some percent ↔
      (phase = .provisioning ∧ percent = 25) ∨
      (phase = .bootstrapping ∧
        Condition.IsReported "ControlPlaneInitialized" "False" conditions ∧ percent = 50) ∨
      (phase = .scaling ∧ Condition.IsReported "WorkersAvailable" "True" conditions ∧
        percent = 85) ∨
      (phase = .installing ∧ Condition.IsReported "WorkersAvailable" "True" conditions ∧
        percent = 90) ∨
      (phase = .ready ∧ percent = 100) := by
  rw [estimate_eq_some_iff]
  simp only [Estimate.applies_iff, Estimate.table, List.mem_cons, List.not_mem_nil, or_false,
    exists_eq_or_imp, exists_eq_left, Milestone.conditionType]
  grind

/-- The update of a deployment, in the light of any events and at any time, repeats no condition
type, and its estimate agrees with its phase: 25 exactly while it is provisioning, 100 exactly if it
is ready, 50 exactly while it is bootstrapping and the control plane is reported not to be
initialized, 85 and 90 exactly while it is scaling or installing and workers are reported to be
available.  Otherwise there is no estimate, and it is never zero. -/
theorem progress_agrees_with_phase (d : Deployment) (events : List Event) (now : Instant) :
    let u := Update.ofSnapshot d.snapshot events now
    let controlPlanePending :=
      Condition.IsReported "ControlPlaneInitialized" "False" u.conditions
    let workersAvailable := Condition.IsReported "WorkersAvailable" "True" u.conditions
    Condition.Distinct u.conditions ∧
    (u.progress = some 25 ↔ u.phase = .provisioning) ∧
    (u.progress = some 100 ↔ u.phase = .ready) ∧
    (u.progress = some 50 ↔ u.phase = .bootstrapping ∧ controlPlanePending) ∧
    (u.progress = some 85 ↔ u.phase = .scaling ∧ workersAvailable) ∧
    (u.progress = some 90 ↔ u.phase = .installing ∧ workersAvailable) ∧
    (u.progress = none ↔ ¬ (u.phase = .provisioning ∨ u.phase = .ready ∨
      (u.phase = .bootstrapping ∧ controlPlanePending) ∨
      (u.phase = .scaling ∧ workersAvailable) ∨ (u.phase = .installing ∧ workersAvailable))) ∧
    u.progress ≠ some 0 := by
  intro u controlPlanePending workersAvailable
  have hdistinct : Condition.Distinct u.conditions := d.snapshot_distinct
  have hestimate : u.progress = u.phase.estimate u.conditions := rfl
  have hprovisioning : u.phase = .provisioning →
      Condition.IsReported "InfrastructureReady" "False" u.conditions := fun h =>
    (Snapshot.pending_iff hdistinct .infrastructure).mp (Snapshot.pending_of_provisioning h)
  have hready : u.phase = .ready → Condition.IsReported "Ready" "True" u.conditions := fun h =>
    (Snapshot.reached_iff hdistinct .ready).mp (Snapshot.reached_of_ready h)
  have hprogress := Phase.estimate_of_decided hprovisioning hready
  rw [← hestimate] at hprogress
  refine ⟨hdistinct, ?_, ?_, ?_, ?_, ?_, ?_, ?_⟩
  · rw [hprogress]
    simp
  · rw [hprogress]
    simp
  · rw [hprogress]
    simp [controlPlanePending]
  · rw [hprogress]
    simp [workersAvailable]
  · rw [hprogress]
    simp [workersAvailable]
  · rw [Option.eq_none_iff_forall_ne_some]
    simp only [Ne, hprogress]
    grind
  · exact u.phase.estimate_ne_zero u.conditions

end ProvisionWatch

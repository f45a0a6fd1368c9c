import Mathlib.Data.List.Nodup
import ProvisionWatch.Deployment.Basic
import ProvisionWatch.Proofs.Classification.Progression

/-!
# What a snapshot reports

A classification looks conditions up by their types and takes the first one that it
finds.  Where no type is repeated there is only one to find, and what it finds can be
said of the conditions themselves, whatever their order.  The conditions of a
deployment are merged by type, so none is repeated in its snapshot.

Main results:

- Theorem `milestone?_any_iff`: what is found about a milestone is what some condition
  of its type says.
- Theorem `hasFailed_iff`: when a deployment reports failure.
- Theorem `Deployment.snapshot_distinct`: a snapshot of a deployment repeats no type.
-/

namespace ProvisionWatch

/-! ## Letter case -/

namespace Text

/-- Texts that are the same up to letter case are the same as the same texts. -/
theorem sameLetters_congr_left {a b : String} (h : sameLetters a b = true) (c : String) :
    sameLetters a c = sameLetters b c := by
  grind

theorem sameLetters_congr_right {a b : String} (h : sameLetters a b = true) (c : String) :
    sameLetters c a = sameLetters c b := by
  rw [sameLetters_comm c, sameLetters_comm c, sameLetters_congr_left h]

end Text

/-! ## Conditions by their types -/

namespace Condition

/-- No type is repeated. -/
def Distinct (conditions : List Condition) : Prop :=
  (conditions.map Condition.type).Nodup

/-- A condition of some type has a status, in whatever letter case. -/
def IsReported (type status : String) (conditions : List Condition) : Prop :=
  ∃ c ∈ conditions, c.type = type ∧ Text.sameLetters c.status status = true

theorem isTrue_eq_sameLetters :
    isTrue = fun c : Condition => Text.sameLetters c.status "True" :=
  funext fun c => Text.sameLetters_congr_right (by decide) c.status

theorem isFalse_eq_sameLetters :
    isFalse = fun c : Condition => Text.sameLetters c.status "False" :=
  funext fun c => Text.sameLetters_congr_right (by decide) c.status

/-- A condition of a milestone is recognised. -/
theorem isRecognised_of_type {c : Condition} {m : Milestone} (h : c.type = m.conditionType) :
    c.isRecognised = true := by
  unfold isRecognised
  rw [List.any_eq_true]
  exact ⟨m, by cases m <;> decide, beq_iff_eq.mpr h⟩

/-- None of the recognised types is present. -/
theorem any_isRecognised_eq_false_iff {conditions : List Condition} :
    conditions.any isRecognised = false ↔
      ∀ c ∈ conditions, c.type ∉ ["Ready", "InfrastructureReady", "ControlPlaneInitialized",
        "WorkersAvailable", "Failed"] := by
  simp [isRecognised, Milestone.all, Milestone.conditionType]

theorem distinct_merge {conditions : List Condition} (h : Distinct conditions)
    (new : Condition) : Distinct (merge new conditions) := by
  unfold Distinct at *
  rw [types_merge]
  split
  · exact h
  · rename_i hnew
    rw [← List.concat_eq_append]
    exact h.concat hnew

/-- Merged reports repeat no type. -/
theorem distinct_summarize (reports : List ReportedCondition) : Distinct (summarize reports) := by
  unfold summarize
  generalize hmerged : ([] : List Condition) = merged
  have hdistinct : Distinct merged := by
    rw [← hmerged]
    exact List.nodup_nil
  clear hmerged
  induction reports generalizing merged with
  | nil => exact hdistinct
  | cons r rest ih => exact ih _ (distinct_merge hdistinct (ofReport r))

end Condition

/-- There is evidence of services being installed. -/
theorem Event.any_isInstalling_iff {events : List Event} :
    events.any isInstalling = true ↔
      ∃ e ∈ events, e.involved.kind = "ServiceSet" ∧
        e.reason ∈ ["ServiceInstalling", "ServicesInstalling", "ServiceSetInstalling"] := by
  simp only [List.any_eq_true, isInstalling, Bool.and_eq_true, beq_iff_eq, List.contains_iff_mem]
  rfl

/-- A snapshot of a deployment repeats no type. -/
theorem Deployment.snapshot_distinct (d : Deployment) :
    Condition.Distinct d.snapshot.conditions := by
  rw [snapshot_conditions]
  exact Condition.distinct_summarize _

/-! ## Milestones by their conditions -/

namespace Snapshot

variable {s : Snapshot}

/-- Where no type is repeated, a condition is found about a milestone exactly if it has its type. -/
theorem milestone?_eq_some_iff (h : Condition.Distinct s.conditions) {m : Milestone}
    {c : Condition} :
    s.milestone? m = some c ↔ c ∈ s.conditions ∧ c.type = m.conditionType := by
  constructor
  · intro hfound
    exact ⟨List.mem_of_find?_eq_some hfound, Condition.type_of_find hfound⟩
  · rintro ⟨hmem, htype⟩
    rw [milestone?, ← htype]
    exact s.condition?_of_mem h hmem

/-- What is found about a milestone is what some condition of its type says. -/
theorem milestone?_any_iff (h : Condition.Distinct s.conditions) (m : Milestone)
    (p : Condition → Bool) :
    (s.milestone? m).any p = true ↔
      ∃ c ∈ s.conditions, c.type = m.conditionType ∧ p c = true := by
  simp only [Option.any_eq_true, milestone?_eq_some_iff h, and_assoc]

/-- Where no type is repeated, a status is reported of a milestone exactly if what is found about it
has that status. -/
theorem isReported_iff (h : Condition.Distinct s.conditions) (m : Milestone) (status : String) :
    Condition.IsReported m.conditionType status s.conditions ↔
      ((s.milestone? m).any fun c => Text.sameLetters c.status status) = true :=
  (milestone?_any_iff h m _).symm

theorem reached_iff (h : Condition.Distinct s.conditions) (m : Milestone) :
    s.reached m = true ↔ Condition.IsReported m.conditionType "True" s.conditions := by
  rw [reached, isReported_iff h, Condition.isTrue_eq_sameLetters]

theorem pending_iff (h : Condition.Distinct s.conditions) (m : Milestone) :
    s.pending m = true ↔ Condition.IsReported m.conditionType "False" s.conditions := by
  rw [pending, isReported_iff h, Condition.isFalse_eq_sameLetters]

theorem reports_iff (m : Milestone) :
    s.reports m = true ↔ ∃ c ∈ s.conditions, c.type = m.conditionType := by
  simp [reports, milestone?, condition?, Condition.find]

/-- Provisioning has failed: by the phase that the controller wrote, by a condition, or by the
reason that is given for not being ready. -/
def ReportsFailure (s : Snapshot) : Prop :=
  (∃ phase, s.statusPhase = some phase ∧ Text.sameLetters phase "failed" = true) ∨
    Condition.IsReported "Failed" "True" s.conditions ∨
    ∃ c ∈ s.conditions, c.type = "Ready" ∧ Text.sameLetters c.status "False" = true ∧
      c.reason ∈ ["Failed", "ProvisioningFailed", "DeploymentFailed"]

theorem hasFailed_iff (h : Condition.Distinct s.conditions) :
    s.hasFailed = true ↔ s.ReportsFailure := by
  rw [hasFailed, Bool.or_eq_true, Bool.or_eq_true, Option.any_eq_true, reached_iff h,
    milestone?_any_iff h, or_assoc]
  simp only [Bool.and_eq_true, List.contains_iff_mem, Condition.isFalse_eq_sameLetters]
  rfl

/-- A recognised type is present exactly if something is reported about some milestone. -/
theorem any_isRecognised (s : Snapshot) :
    s.conditions.any Condition.isRecognised = Milestone.all.any s.reports := by
  rw [Bool.eq_iff_iff]
  simp only [List.any_eq_true, Condition.isRecognised, reports_iff, beq_iff_eq]
  exact ⟨fun ⟨c, hc, m, hm, htype⟩ => ⟨m, hm, c, hc, htype⟩,
    fun ⟨m, hm, c, hc, htype⟩ => ⟨c, hc, m, hm, htype⟩⟩

end Snapshot

/-- A row of the estimates applies in its phase, if its status is reported of its milestone. -/
theorem Estimate.applies_iff {row : Estimate} {phase : Phase} {conditions : List Condition} :
    row.applies phase conditions = true ↔
      row.phase = phase ∧
        Condition.IsReported row.milestone.conditionType row.status conditions := by
  simp [applies, Condition.IsReported]

end ProvisionWatch

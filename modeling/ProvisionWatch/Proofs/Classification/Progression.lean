import ProvisionWatch.Classification

/-!
# Stages that complete

A provisioning that goes well goes through its phases in one order.  A stage of it
completes when its milestone is reported as reached, whatever was reported of it
before.  A classification is made anew from all conditions each time, and yet it
never falls back: whichever stages complete, in whatever order, a deployment that
had not failed has not failed, is in no earlier phase, and shows no lower estimate.

Main results:

- Theorem `rank_classify`: how far a deployment is, told from its milestones.
- Theorem `rank_classify_le_complete`: one more stage never takes it back.
- Theorem `stages_never_regress`: nor do any stages in any order.
-/

namespace ProvisionWatch

/-! ## The order of the phases -/

/-- How far a phase is in a provisioning that goes well.  Failure has no place in the order; it is
listed where nothing has begun. -/
def Phase.rank : Phase → Nat
  | unknown | initializing | failed => 0
  | provisioning => 1
  | bootstrapping => 2
  | scaling => 3
  | installing => 4
  | ready => 5

/-- An estimate is the percentage of a row for the phase. -/
theorem Phase.row_of_estimate {phase : Phase} {conditions : List Condition} {percent : UInt8}
    (h : phase.estimate conditions = some percent) :
    ∃ row ∈ Estimate.table, row.phase = phase ∧ row.percent = percent := by
  unfold estimate at h
  split at h
  · cases h
  · rename_i row rest hrows
    have hrow : row ∈ Estimate.table.filter fun row => row.applies phase conditions := by
      rw [hrows]
      exact List.mem_cons_self
    obtain ⟨hmem, happlies⟩ := List.mem_filter.mp hrow
    have hphase : row.phase = phase := beq_iff_eq.mp (Bool.and_eq_true_iff.mp happlies).1
    split at h
    · exact ⟨row, hmem, hphase, Option.some.inj h⟩
    · cases h

/-- A later phase has no lower estimate. -/
theorem Phase.estimate_le_of_rank_le {before after : Phase} {earlier later : List Condition}
    {p q : UInt8} (hrank : before.rank ≤ after.rank) (hp : before.estimate earlier = some p)
    (hq : after.estimate later = some q) : p ≤ q := by
  have htable : ∀ row ∈ Estimate.table, ∀ other ∈ Estimate.table,
      row.phase.rank ≤ other.phase.rank → row.percent ≤ other.percent := by
    decide
  obtain ⟨row, hrow, rfl, rfl⟩ := row_of_estimate hp
  obtain ⟨other, hother, rfl, rfl⟩ := row_of_estimate hq
  exact htable row hrow other hother hrank

/-! ## Milestones that are reached -/

theorem Condition.isTrue_of_status {c : Condition} (h : c.status = "True") : c.isTrue = true := by
  rw [isTrue, h]
  decide

theorem Condition.isFalse_of_isTrue {c : Condition} (h : c.isTrue = true) : c.isFalse = false := by
  unfold isTrue isFalse at *
  rw [Text.sameLetters, beq_iff_eq] at h
  rw [Text.sameLetters, h]
  decide

theorem Condition.type_of_find {type : String} {conditions : List Condition} {c : Condition}
    (h : find type conditions = some c) : c.type = type := by
  simpa using List.find?_some h

/-- Milestones are told apart by their condition types. -/
theorem Milestone.conditionType_injective : Function.Injective conditionType := by
  intro m m' h
  cases m <;> cases m' <;> simp [conditionType] at h ⊢

namespace Snapshot

@[grind →]
theorem reports_of_reached {s : Snapshot} {m : Milestone} (h : s.reached m = true) :
    s.reports m = true := by
  unfold reached at h
  unfold reports
  cases hm : s.milestone? m with
  | none => simp [hm] at h
  | some c => rfl

@[grind →]
theorem reports_of_pending {s : Snapshot} {m : Milestone} (h : s.pending m = true) :
    s.reports m = true := by
  unfold pending at h
  unfold reports
  cases hm : s.milestone? m with
  | none => simp [hm] at h
  | some c => rfl

@[grind →]
theorem pending_of_reached {s : Snapshot} {m : Milestone} (h : s.reached m = true) :
    s.pending m = false := by
  unfold reached at h
  unfold pending
  cases hm : s.milestone? m with
  | none => rfl
  | some c =>
      rw [hm] at h
      exact Condition.isFalse_of_isTrue h

/-- Only a failed deployment is classified so. -/
theorem classify_eq_failed_iff {s : Snapshot} {events : List Event} :
    s.classify events = .failed ↔ s.hasFailed = true := by
  unfold classify
  cases s.hasFailed with
  | true => simp
  | false =>
      simp only [Bool.false_eq_true, if_false, iff_false]
      repeat' split
      all_goals decide

/-- How far a deployment is that has not failed, told from its milestones: it is as far as the first
of its stages that is reported as not complete, or else behind the last of those that are. -/
theorem rank_classify {s : Snapshot} (hgoing : s.hasFailed = false) (events : List Event) :
    (s.classify events).rank =
      if s.reached .ready then 5
      else if events.any Event.isInstalling then 4
      else if s.pending .infrastructure then 1
      else if s.pending .controlPlane then 2
      else if s.reports .workers || s.reached .controlPlane then 3
      else if s.reached .infrastructure then 2
      else 0 := by
  -- A pending milestone of the workers is a report about them, so the order of the two tests of the
  -- workers does not matter.
  unfold classify
  grind [Phase.rank]

end Snapshot

/-! ## Stages that complete -/

/-- A stage completes.  A condition that is there turns `True` in its place and keeps its words; one
that is not there is added at some place and with some words. -/
structure Completion where
  milestone : Milestone
  /-- Failure is not a stage. -/
  isStage : milestone ≠ .failed
  place : Nat
  reason : String
  message : String

namespace Completion

variable (c : Completion)

/-- A condition after the stage has completed. -/
def settle (d : Condition) : Condition :=
  if d.type = c.milestone.conditionType then { d with status := "True" } else d

/-- The condition that is added where none is there. -/
def added : Condition :=
  { type := c.milestone.conditionType, status := "True", reason := c.reason, message := c.message }

/-- The conditions after the stage has completed. -/
def applyTo (conditions : List Condition) : List Condition :=
  if (Condition.find c.milestone.conditionType conditions).isSome then
    conditions.map c.settle
  else
    conditions.take c.place ++ c.added :: conditions.drop c.place

@[simp]
theorem settle_type (d : Condition) : (c.settle d).type = d.type := by
  unfold settle
  split <;> rfl

@[simp]
theorem find_map_settle (type : String) (conditions : List Condition) :
    Condition.find type (conditions.map c.settle) =
      (Condition.find type conditions).map c.settle := by
  unfold Condition.find
  rw [List.find?_map]
  simp only [Function.comp_def, settle_type]

/-- Afterwards the milestone is reported as reached. -/
theorem find_applyTo_self (conditions : List Condition) :
    ∃ d, Condition.find c.milestone.conditionType (c.applyTo conditions) = some d ∧
      d.isTrue = true := by
  unfold applyTo
  split
  · rename_i hthere
    obtain ⟨d, hd⟩ := Option.isSome_iff_exists.mp hthere
    refine ⟨c.settle d, by rw [find_map_settle, hd, Option.map_some], ?_⟩
    rw [settle, if_pos (Condition.type_of_find hd)]
    exact Condition.isTrue_of_status rfl
  · rename_i habsent
    rw [Option.not_isSome_iff_eq_none] at habsent
    refine ⟨c.added, ?_, Condition.isTrue_of_status rfl⟩
    have hbefore : (conditions.take c.place).find? (fun d => d.type == c.milestone.conditionType) =
        none := by
      rw [List.find?_eq_none]
      exact fun d hd => List.find?_eq_none.mp habsent d (List.mem_of_mem_take hd)
    rw [Condition.find, List.find?_append, hbefore, Option.none_or,
      List.find?_cons_of_pos (by simp [added])]

/-- What is reported about anything else stays as it is. -/
theorem find_applyTo_of_ne {type : String} (hne : type ≠ c.milestone.conditionType)
    (conditions : List Condition) :
    Condition.find type (c.applyTo conditions) = Condition.find type conditions := by
  unfold applyTo
  split
  · rw [find_map_settle]
    refine (Option.map_congr fun d hd => ?_).trans Option.map_id'
    rw [settle, if_neg (Condition.type_of_find hd ▸ hne)]
  · have hadded : (c.added.type == type) = false := by simpa [added] using hne.symm
    calc Condition.find type (conditions.take c.place ++ c.added :: conditions.drop c.place)
        = Condition.find type (conditions.take c.place ++ conditions.drop c.place) := by
          simp only [Condition.find, List.find?_append, List.find?_cons, hadded]
      _ = Condition.find type conditions := by
          rw [List.take_append_drop]

end Completion

namespace Snapshot

/-- The snapshot after a stage has completed. -/
def complete (s : Snapshot) (c : Completion) : Snapshot :=
  { s with conditions := c.applyTo s.conditions }

/-- The snapshot after stages have completed one after the other. -/
def completeAll (s : Snapshot) (completions : List Completion) : Snapshot :=
  completions.foldl complete s

variable {s : Snapshot} {c : Completion} {m : Milestone}

theorem milestone?_complete_of_ne (hne : m ≠ c.milestone) :
    (s.complete c).milestone? m = s.milestone? m :=
  c.find_applyTo_of_ne (fun h => hne (Milestone.conditionType_injective h)) s.conditions

/-- Afterwards the milestone of the stage is reported as reached. -/
theorem milestone?_complete_self (s : Snapshot) (c : Completion) :
    ∃ d, (s.complete c).milestone? c.milestone = some d ∧ d.isTrue = true :=
  c.find_applyTo_self s.conditions

@[simp, grind =]
theorem reached_complete_self (s : Snapshot) (c : Completion) :
    (s.complete c).reached c.milestone = true := by
  obtain ⟨d, hd, htrue⟩ := s.milestone?_complete_self c
  rw [reached, hd]
  exact htrue

@[grind =]
theorem reached_complete_of_ne (hne : m ≠ c.milestone) :
    (s.complete c).reached m = s.reached m := by
  rw [reached, milestone?_complete_of_ne hne, reached]

@[grind =]
theorem pending_complete_of_ne (hne : m ≠ c.milestone) :
    (s.complete c).pending m = s.pending m := by
  rw [pending, milestone?_complete_of_ne hne, pending]

@[grind =]
theorem reports_complete_of_ne (hne : m ≠ c.milestone) :
    (s.complete c).reports m = s.reports m := by
  rw [reports, milestone?_complete_of_ne hne, reports]

/-- No stage that completes makes a deployment fail. -/
theorem hasFailed_complete (hgoing : s.hasFailed = false) : (s.complete c).hasFailed = false := by
  have hfailed : (s.complete c).reached .failed = s.reached .failed :=
    reached_complete_of_ne c.isStage.symm
  unfold hasFailed at *
  rw [hfailed]
  by_cases hready : c.milestone = .ready
  · obtain ⟨d, hd, htrue⟩ := s.milestone?_complete_self c
    rw [hready] at hd
    have hnot := Condition.isFalse_of_isTrue htrue
    simp_all [complete]
  · rw [milestone?_complete_of_ne (Ne.symm hready)]
    exact hgoing

/-- One more stage never takes a deployment back. -/
theorem rank_classify_le_complete (hgoing : s.hasFailed = false) (c : Completion)
    (events : List Event) :
    (s.classify events).rank ≤ ((s.complete c).classify events).rank := by
  have hreached := s.reached_complete_self c
  rw [rank_classify hgoing, rank_classify (hasFailed_complete hgoing)]
  -- All is known of the milestone that is reached now, and nothing has changed about the others:
  -- the two chains of tests can only part where a stage was not complete and is so now.
  cases hm : c.milestone with
  | ready | infrastructure | controlPlane | workers => grind
  | failed => exact absurd hm c.isStage

/-- Whatever stages complete, a deployment that has not failed does not fail by that, and never is
taken back. -/
theorem rank_classify_le_completeAll (hgoing : s.hasFailed = false)
    (completions : List Completion) (events : List Event) :
    (s.completeAll completions).hasFailed = false ∧
      (s.classify events).rank ≤ ((s.completeAll completions).classify events).rank := by
  induction completions generalizing s with
  | nil => exact ⟨hgoing, Nat.le_refl _⟩
  | cons c rest ih =>
      obtain ⟨hlater, hrank⟩ := ih (hasFailed_complete (c := c) hgoing)
      exact ⟨hlater, Nat.le_trans (rank_classify_le_complete hgoing c events) hrank⟩

/-- A deployment that has not failed, in the light of any events, and stages of it that complete one
after the other, whatever was reported of them before: at the end it has not failed, it is in no
earlier phase, and its estimate is no lower if there was one before and there is one now.  The
events are the same throughout, and it makes no difference whether a condition type is repeated. -/
theorem stages_never_regress {events : List Event} (hgoing : s.classify events ≠ .failed)
    (completions : List Completion) :
    let later := s.completeAll completions
    later.classify events ≠ .failed ∧
      (s.classify events).rank ≤ (later.classify events).rank ∧
      ∀ p q, (s.classify events).estimate s.conditions = some p →
        (later.classify events).estimate later.conditions = some q → p ≤ q := by
  intro later
  rw [Ne, classify_eq_failed_iff, Bool.not_eq_true] at hgoing ⊢
  obtain ⟨hlater, hrank⟩ := rank_classify_le_completeAll hgoing completions events
  exact ⟨hlater, hrank, fun p q => Phase.estimate_le_of_rank_le hrank⟩

/-- The workers are reported before the infrastructure, which is not ready: the deployment is being
provisioned.  The control plane is added, then the infrastructure completes. -/
theorem stages_never_regress_of_early_workers :
    let s : Snapshot :=
      { Snapshot.blank with
        conditions :=
          [ ⟨"WorkersAvailable", "true", "", ""⟩, ⟨"InfrastructureReady", "False", "", ""⟩,
            ⟨"Ready", "False", "Waiting", ""⟩ ] }
    let completions : List Completion :=
      [ ⟨.controlPlane, by decide, 0, "", ""⟩, ⟨.infrastructure, by decide, 0, "", ""⟩ ]
    s.classify [] = .provisioning ∧ (s.completeAll completions).classify [] = .scaling ∧
      (s.completeAll completions).classify [] ≠ .failed ∧
      (Phase.provisioning.rank ≤ Phase.scaling.rank) ∧
      ((25 : UInt8) ≤ 85) := by
  intro s completions
  have hbefore : s.classify [] = .provisioning := by
    decide
  have hafter : (s.completeAll completions).classify [] = .scaling := by
    decide
  obtain ⟨hgoing, hrank, hestimate⟩ :=
    @stages_never_regress s [] (by rw [hbefore]; decide) completions
  rw [hbefore, hafter] at hrank
  exact ⟨hbefore, hafter, hgoing, hrank, hestimate 25 85 (by decide) (by decide)⟩

end Snapshot
end ProvisionWatch

import ProvisionWatch.Proofs.Classification.Reports

/-!
# How a failure is told

Provisioning fails in three ways: the controller says so in the phase that it writes,
a condition says so, or a missing readiness has a reason that says so.  The words for a
failure are looked up without asking which of them it was.  A condition that says so
comes first, and then the condition about readiness is asked, whatever its status.

So it is a condition that tells of the failure, or the fixed words, except in one case:
the controller alone says that provisioning has failed, and an old condition still says
that the cluster is ready.  Then the failure is told in the words of a success.

Main results:

- Theorems `isInWordsOf_reported`, `isInWordsOf_readiness` and `isPlain_without_readiness`:
  whose words a failure is told in.
- Theorem `tellsFailure_iff`: when the words for a failure tell of it.
- Theorem `failure_told_iff`: how a failure is told, and the only case in which a success
  lends its words.
- Theorem `failure_told_in_words_of_success`: this case occurs.
-/

namespace ProvisionWatch

/-! ## Words -/

/-- A condition tells of a failure, or that readiness is missing. -/
def Condition.TellsOfFailure (c : Condition) : Prop :=
  (c.type = "Failed" ∧ Text.sameLetters c.status "True" = true) ∨
    (c.type = "Ready" ∧ Text.sameLetters c.status "True" = false)

/-- A condition says that the cluster is ready. -/
def Condition.TellsOfSuccess (c : Condition) : Prop :=
  c.type = "Ready" ∧ Text.sameLetters c.status "True" = true

/-- A condition has words of its own for a failure. -/
def Condition.HasOwnWords (c : Condition) : Prop :=
  c.message ∉ ["", "Cluster deployment failed"] ∨ c.reason ∉ ["", "Failed"]

instance (c : Condition) : Decidable c.TellsOfFailure :=
  inferInstanceAs (Decidable (_ ∨ _))

instance (c : Condition) : Decidable c.TellsOfSuccess :=
  inferInstanceAs (Decidable (_ ∧ _))

namespace Summary

/-- A failure in fixed words. -/
def IsPlain (w : Summary) : Prop :=
  w.message = "Cluster deployment failed" ∧ w.reason = "Failed"

/-- A failure in the words of a condition, each of which is replaced by the fixed one where the
condition has none. -/
def IsInWordsOf (w : Summary) (c : Condition) : Prop :=
  w.message = (if c.message = "" then "Cluster deployment failed" else c.message) ∧
    w.reason = (if c.reason = "" then "Failed" else c.reason)

/-- A failure in fixed words, or in the words of a condition that tells of it. -/
def TellsFailure (w : Summary) (conditions : List Condition) : Prop :=
  w.IsPlain ∨ ∃ c ∈ conditions, c.TellsOfFailure ∧ w.IsInWordsOf c

instance (w : Summary) : Decidable w.IsPlain :=
  inferInstanceAs (Decidable (_ ∧ _))

instance (w : Summary) (c : Condition) : Decidable (w.IsInWordsOf c) :=
  inferInstanceAs (Decidable (_ ∧ _))

instance (w : Summary) (conditions : List Condition) : Decidable (w.TellsFailure conditions) :=
  inferInstanceAs (Decidable (_ ∨ _))

end Summary

/-! ## The condition that is asked -/

namespace Snapshot

variable {s : Snapshot} {events : List Event}

@[simp]
theorem orDefault_some (text default : String) :
    orDefault (some text) default = if text = "" then default else text := by
  by_cases h : text = "" <;> simp [orDefault, Option.filter, h]

/-- A failure is told in the words of the condition that it is explained by. -/
theorem isInWordsOf_of_driving {c : Condition} (h : s.drivingCondition .failed = some c) :
    (s.summarize .failed).IsInWordsOf c := by
  constructor
  · simp only [summarize, h, Option.map_some, orDefault_some, defaultMessage]
  · simp only [summarize, h, Option.map_some, orDefault_some, Phase.text]

theorem isPlain_of_no_driving (h : s.drivingCondition .failed = none) :
    (s.summarize .failed).IsPlain := by
  simp [Summary.IsPlain, summarize, h, orDefault, defaultMessage, Phase.text]

/-- A condition that reports the failure is asked first. -/
theorem drivingCondition_failed_of_reported (h : Condition.Distinct s.conditions) {c : Condition}
    (hc : c ∈ s.conditions) (htype : c.type = "Failed")
    (htrue : Text.sameLetters c.status "True" = true) : s.drivingCondition .failed = some c := by
  have hfound : s.milestone? .failed = some c := (milestone?_eq_some_iff h).mpr ⟨hc, htype⟩
  have hreached : c.isTrue = true := by rwa [Condition.isTrue_eq_sameLetters]
  rw [drivingCondition, hfound, Option.filter_some_pos hreached, Option.some_or]

/-- Where none reports the failure the condition about readiness is asked, whatever it says. -/
theorem drivingCondition_failed_of_unreported (h : Condition.Distinct s.conditions)
    (hunreported : ¬ Condition.IsReported "Failed" "True" s.conditions) :
    s.drivingCondition .failed = s.milestone? .ready := by
  have hunreached : s.reached .failed = false :=
    Bool.eq_false_iff.mpr fun hreached => hunreported ((reached_iff h .failed).mp hreached)
  have hnone : (s.milestone? .failed).filter Condition.isTrue = none := by
    rw [Option.filter_eq_none_iff]
    intro c hc htrue
    rw [reached, hc, Option.any_some, htrue] at hunreached
    cases hunreached
  rw [drivingCondition, hnone, Option.none_or]

/-! ## Whose words they are -/

/-- A condition that reports the failure lends its words. -/
theorem isInWordsOf_reported (h : Condition.Distinct s.conditions) {c : Condition}
    (hc : c ∈ s.conditions) (htype : c.type = "Failed")
    (htrue : Text.sameLetters c.status "True" = true) : (s.summarize .failed).IsInWordsOf c :=
  isInWordsOf_of_driving (drivingCondition_failed_of_reported h hc htype htrue)

/-- Where none reports it the one about readiness does, whatever it says. -/
theorem isInWordsOf_readiness (h : Condition.Distinct s.conditions)
    (hunreported : ¬ Condition.IsReported "Failed" "True" s.conditions) {c : Condition}
    (hc : c ∈ s.conditions) (htype : c.type = "Ready") : (s.summarize .failed).IsInWordsOf c := by
  have hdriving := drivingCondition_failed_of_unreported h hunreported
  have hready : s.milestone? .ready = some c := (milestone?_eq_some_iff h).mpr ⟨hc, htype⟩
  exact isInWordsOf_of_driving (hdriving.trans hready)

/-- Where there is no such condition either the words are fixed. -/
theorem isPlain_without_readiness (h : Condition.Distinct s.conditions)
    (hunreported : ¬ Condition.IsReported "Failed" "True" s.conditions)
    (hnone : ∀ c ∈ s.conditions, c.type ≠ "Ready") : (s.summarize .failed).IsPlain := by
  have hdriving := drivingCondition_failed_of_unreported h hunreported
  have hunready : s.milestone? .ready = none := by
    refine Option.eq_none_iff_forall_ne_some.mpr fun c hc => ?_
    obtain ⟨hmem, htype⟩ := (milestone?_eq_some_iff h).mp hc
    exact hnone c hmem htype
  exact isPlain_of_no_driving (hdriving.trans hunready)

/-! ## Who tells of a failure -/

/-- Words of a condition are the fixed ones exactly if it has none of its own. -/
theorem isPlain_iff_of_isInWordsOf {w : Summary} {c : Condition} (h : w.IsInWordsOf c) :
    w.IsPlain ↔ ¬ c.HasOwnWords := by
  obtain ⟨hmessage, hreason⟩ := h
  simp only [Summary.IsPlain, Condition.HasOwnWords, hmessage, hreason, List.mem_cons,
    List.not_mem_nil, or_false]
  by_cases hm : c.message = "" <;> by_cases hr : c.reason = "" <;> simp [hm, hr]

/-- The words of the condition about readiness tell of a failure, unless they are words for a
success. -/
theorem tellsFailure_iff_of_readiness (h : Condition.Distinct s.conditions)
    (hunreported : ¬ Condition.IsReported "Failed" "True" s.conditions) {c : Condition}
    (hc : c ∈ s.conditions) (htype : c.type = "Ready") :
    (s.summarize .failed).TellsFailure s.conditions ↔ ¬ (c.TellsOfSuccess ∧ c.HasOwnWords) := by
  have hwords := isInWordsOf_readiness h hunreported hc htype
  constructor
  · rintro (hplain | ⟨d, hd, hfailed | hunready, -⟩) ⟨⟨-, htrue⟩, hown⟩
    · exact (isPlain_iff_of_isInWordsOf hwords).mp hplain hown
    · exact hunreported ⟨d, hd, hfailed⟩
    · obtain rfl := List.inj_on_of_nodup_map h hd hc (hunready.1.trans htype.symm)
      rw [htrue] at hunready
      cases hunready.2
  · intro hnot
    by_cases htrue : Text.sameLetters c.status "True" = true
    · have hplain := (isPlain_iff_of_isInWordsOf hwords).mpr fun hown => hnot ⟨⟨htype, htrue⟩, hown⟩
      exact .inl hplain
    · exact .inr ⟨c, hc, .inr ⟨htype, Bool.eq_false_iff.mpr htrue⟩, hwords⟩

/-- The words for a failure tell of it, unless no condition reports it and one about readiness has
words for a success. -/
theorem tellsFailure_iff (h : Condition.Distinct s.conditions) :
    (s.summarize .failed).TellsFailure s.conditions ↔
      ¬ (¬ Condition.IsReported "Failed" "True" s.conditions ∧
        ∃ c ∈ s.conditions, c.TellsOfSuccess ∧ c.HasOwnWords) := by
  by_cases hreported : Condition.IsReported "Failed" "True" s.conditions
  · obtain ⟨c, hc, htype, htrue⟩ := hreported
    have htells : (s.summarize .failed).TellsFailure s.conditions :=
      .inr ⟨c, hc, .inl ⟨htype, htrue⟩, isInWordsOf_reported h hc htype htrue⟩
    exact iff_of_true htells fun hnot => hnot.1 ⟨c, hc, htype, htrue⟩
  · rw [and_iff_right hreported]
    by_cases hready : ∃ c ∈ s.conditions, c.type = "Ready"
    · obtain ⟨c, hc, htype⟩ := hready
      rw [tellsFailure_iff_of_readiness h hreported hc htype, not_iff_not]
      refine ⟨fun hsuccess => ⟨c, hc, hsuccess⟩, ?_⟩
      rintro ⟨d, hd, hsuccess⟩
      obtain rfl := List.inj_on_of_nodup_map h hd hc (hsuccess.1.1.trans htype.symm)
      exact hsuccess
    · have hnone : ∀ c ∈ s.conditions, c.type ≠ "Ready" := by
        simpa using hready
      refine iff_of_true (.inl (isPlain_without_readiness h hreported hnone)) ?_
      rintro ⟨c, hc, ⟨htype, -⟩, -⟩
      exact hnone c hc htype

/-- Where provisioning has failed although the cluster is said to be ready, and no condition reports
the failure, the controller says so itself. -/
theorem ownPhase_of_success (h : Condition.Distinct s.conditions) (hfailed : s.hasFailed = true)
    (hunreported : ¬ Condition.IsReported "Failed" "True" s.conditions) {c : Condition}
    (hc : c ∈ s.conditions) (hsuccess : c.TellsOfSuccess) :
    ∃ phase, s.statusPhase = some phase ∧ Text.sameLetters phase "failed" = true := by
  rcases (hasFailed_iff h).mp hfailed with hown | hreported | ⟨d, hd, htype, hfalse, -⟩
  · exact hown
  · exact absurd hreported hunreported
  · obtain rfl := List.inj_on_of_nodup_map h hc hd (hsuccess.1.trans htype.symm)
    have hready : c.isTrue = true := by
      rw [Condition.isTrue_eq_sameLetters]
      exact hsuccess.2
    have hunready : c.isFalse = true := by
      rw [Condition.isFalse_eq_sameLetters]
      exact hfalse
    rw [Condition.isFalse_of_isTrue hready] at hunready
    cases hunready

/-- A failure is told in the words of the condition that reports it, or else in the words of the one
about readiness, or else in fixed words.  These tell of the failure, unless the controller alone
says that provisioning has failed and the condition about readiness has words for a success. -/
theorem failure_told_iff (h : Condition.Distinct s.conditions)
    (hfailed : s.classify events = .failed) :
    let w := s.summarize (s.classify events)
    let reported := Condition.IsReported "Failed" "True" s.conditions
    (¬ w.TellsFailure s.conditions ↔
      (∃ phase, s.statusPhase = some phase ∧ Text.sameLetters phase "failed" = true) ∧
        ¬ reported ∧ ∃ c ∈ s.conditions, c.TellsOfSuccess ∧ c.HasOwnWords) ∧
    (∀ c ∈ s.conditions, c.type = "Failed" → Text.sameLetters c.status "True" = true →
      w.IsInWordsOf c) ∧
    (¬ reported → ∀ c ∈ s.conditions, c.type = "Ready" → w.IsInWordsOf c) ∧
    (¬ reported → (∀ c ∈ s.conditions, c.type ≠ "Ready") → w.IsPlain) := by
  rw [hfailed]
  refine ⟨?_, fun c hc htype htrue => isInWordsOf_reported h hc htype htrue,
    fun hunreported c hc htype => isInWordsOf_readiness h hunreported hc htype,
    isPlain_without_readiness h⟩
  rw [tellsFailure_iff h, not_not]
  constructor
  · rintro ⟨hunreported, c, hc, hsuccess, hown⟩
    have hphase := ownPhase_of_success h (classify_eq_failed_iff.mp hfailed) hunreported hc
      hsuccess
    exact ⟨hphase, hunreported, c, hc, hsuccess, hown⟩
  · exact fun hexception => hexception.2

/-- The cluster is said to be ready, and both the controller and a condition say that it has failed:
the failure is told in the words of that condition, which has no reason. -/
theorem failure_told_iff_of_reported_failure :
    let failed : Condition := ⟨"Failed", "TRUE", "", "Quota exceeded"⟩
    let s : Snapshot :=
      { Snapshot.blank with
        statusPhase := some "failed"
        conditions := [⟨"Ready", "True", "ClusterReady", "Cluster is up"⟩, failed] }
    Condition.Distinct s.conditions ∧ s.classify [] = .failed ∧
      (s.summarize (s.classify [])).TellsFailure s.conditions ∧
      (s.summarize (s.classify [])).IsInWordsOf failed := by
  intro failed s
  have hdistinct : Condition.Distinct s.conditions := by
    unfold Condition.Distinct
    decide
  have hfailed : s.classify [] = .failed := by
    decide
  have hreported : Condition.IsReported "Failed" "True" s.conditions :=
    ⟨failed, by decide, rfl, by decide⟩
  obtain ⟨htold, hwords, -, -⟩ := failure_told_iff hdistinct hfailed
  refine ⟨hdistinct, hfailed, ?_, hwords failed (by decide) rfl (by decide)⟩
  by_contra hnot
  exact (htold.mp hnot).2.1 hreported

/-- Only the controller says that provisioning has failed, and an old condition says that the
cluster is ready: the failure is told in the words of that success. -/
theorem failure_told_in_words_of_success :
    let ready : Condition := ⟨"Ready", "True", "ClusterReady", "Cluster is up"⟩
    let s : Snapshot :=
      { Snapshot.blank with statusPhase := some "Failed", conditions := [ready] }
    Condition.Distinct s.conditions ∧ s.classify [] = .failed ∧
      s.summarize (s.classify []) = ⟨"Cluster is up", "ClusterReady", .error⟩ ∧
      ready.TellsOfSuccess ∧ ¬ (s.summarize (s.classify [])).TellsFailure s.conditions := by
  unfold Condition.Distinct
  decide

end Snapshot
end ProvisionWatch

import Mathlib.Data.List.Perm.Basic
import ProvisionWatch.Proofs.Classification.Reports

/-!
# What a judgement depends on

A judgement is all that is derived of a snapshot in the light of events: the phase, the
estimate and the words.  Three functions read the conditions for it, each in its own
way, but they only ask what is reported about the five milestones, and of a status they
only ask what it is up to letter case.  Of the events only evidence of an installation
counts.

Main results:

- Theorem `alike_milestone?`: snapshots that say the same about a milestone have alike
  conditions of it, or none.
- Theorem `judgement_congr`: these conditions decide a judgement.
- Theorem `judgement_of_alike`: so nothing else does, nor does any order.
-/

namespace ProvisionWatch

/-! ## Alike conditions -/

namespace Condition

/-- Two conditions are the same up to the letter case of their status. -/
structure Alike (c d : Condition) : Prop where
  type : c.type = d.type
  status : Text.sameLetters c.status d.status = true
  reason : c.reason = d.reason
  message : c.message = d.message

/-- The condition with its status in small letters. -/
def folded (c : Condition) : Condition :=
  { c with status := Text.lowered c.status }

theorem alike_iff_folded {c d : Condition} : c.Alike d ↔ c.folded = d.folded := by
  constructor
  · rintro ⟨htype, hstatus, hreason, hmessage⟩
    rw [folded, folded, htype, hreason, hmessage, (Text.sameLetters_iff _ _).mp hstatus]
  · intro h
    obtain ⟨htype, hstatus, hreason, hmessage⟩ := Condition.mk.inj h
    exact ⟨htype, (Text.sameLetters_iff _ _).mpr hstatus, hreason, hmessage⟩

variable {c d : Condition}

theorem alike_self (c : Condition) : c.Alike c :=
  alike_iff_folded.mpr rfl

theorem Alike.isTrue (h : c.Alike d) : c.isTrue = d.isTrue :=
  Text.sameLetters_congr_left h.status "true"

theorem Alike.isFalse (h : c.Alike d) : c.isFalse = d.isFalse :=
  Text.sameLetters_congr_left h.status "false"

end Condition

/-! ## Alike findings -/

section Related

variable {α : Type} {r : α → α → Prop} {found found' : Option α}

theorem rel_self (hr : ∀ a, r a a) (found : Option α) : Option.Rel r found found := by
  cases found with
  | none => exact .none
  | some a => exact .some (hr a)

theorem isSome_eq_of_rel (h : Option.Rel r found found') : found.isSome = found'.isSome := by
  cases h <;> rfl

/-- A test that does not tell related things apart. -/
theorem any_eq_of_rel (h : Option.Rel r found found') {p : α → Bool}
    (hp : ∀ {a b}, r a b → p a = p b) : found.any p = found'.any p := by
  cases h with
  | none => rfl
  | some hrel => exact hp hrel

/-- A content that related things share. -/
theorem map_eq_of_rel {β : Type} (h : Option.Rel r found found') {content : α → β}
    (hcontent : ∀ {a b}, r a b → content a = content b) :
    found.map content = found'.map content := by
  cases h with
  | none => rfl
  | some hrel => exact congrArg some (hcontent hrel)

theorem rel_or {other other' : Option α} (h : Option.Rel r found found')
    (hother : Option.Rel r other other') : Option.Rel r (found.or other) (found'.or other') := by
  cases h with
  | none => exact hother
  | some hrel => exact .some hrel

end Related

/-- Of alike conditions both are true, or neither is. -/
theorem rel_filter_isTrue {found found' : Option Condition}
    (h : Option.Rel Condition.Alike found found') :
    Option.Rel Condition.Alike (found.filter Condition.isTrue)
      (found'.filter Condition.isTrue) := by
  cases h with
  | none => exact .none
  | @some c d halike =>
      cases htrue : c.isTrue with
      | true =>
          rw [Option.filter_some_pos htrue, Option.filter_some_pos (halike.isTrue ▸ htrue)]
          exact .some halike
      | false =>
          have hfalse := halike.isTrue ▸ htrue
          simp only [Option.filter_some, htrue, hfalse]
          exact .none

/-! ## Alike snapshots -/

namespace Snapshot

/-- Two snapshots say the same about a milestone: nothing, or what alike conditions say. -/
def AlikeAbout (s t : Snapshot) (m : Milestone) : Prop :=
  ((∀ c ∈ s.conditions, c.type ≠ m.conditionType) ∧
    ∀ d ∈ t.conditions, d.type ≠ m.conditionType) ∨
  ∃ c ∈ s.conditions, ∃ d ∈ t.conditions, c.type = m.conditionType ∧ c.Alike d

/-- The conditions that decide the phase. -/
def recognised (s : Snapshot) : List Condition :=
  s.conditions.filter Condition.isRecognised

/-- All that is derived of a snapshot in the light of events. -/
structure Judgement where
  phase : Phase
  estimate : Option UInt8
  summary : Summary
deriving DecidableEq

/-- Judge a snapshot in the light of events. -/
def judgement (s : Snapshot) (events : List Event) : Judgement :=
  { phase := s.classify events
    estimate := (s.classify events).estimate s.conditions
    summary := s.summarize (s.classify events) }

variable {s t : Snapshot} {events events' : List Event} {m : Milestone}

/-- Where no type is repeated, snapshots that say the same about a milestone have alike conditions
of it, or none. -/
theorem alike_milestone? (hs : Condition.Distinct s.conditions)
    (ht : Condition.Distinct t.conditions) (h : s.AlikeAbout t m) :
    Option.Rel Condition.Alike (s.milestone? m) (t.milestone? m) := by
  rcases h with ⟨hnone, hnone'⟩ | ⟨c, hc, d, hd, htype, halike⟩
  · have hs : s.milestone? m = none := by
      simpa [milestone?, condition?, Condition.find] using hnone
    have ht : t.milestone? m = none := by
      simpa [milestone?, condition?, Condition.find] using hnone'
    rw [hs, ht]
    exact .none
  · rw [(milestone?_eq_some_iff hs).mpr ⟨hc, htype⟩,
      (milestone?_eq_some_iff ht).mpr ⟨hd, halike.type ▸ htype⟩]
    exact .some halike

/-! ## Judgements -/

section Found

variable (h : ∀ m, Option.Rel Condition.Alike (s.milestone? m) (t.milestone? m))

include h

theorem reached_of_alike (m : Milestone) : s.reached m = t.reached m :=
  any_eq_of_rel (h m) Condition.Alike.isTrue

theorem pending_of_alike (m : Milestone) : s.pending m = t.pending m :=
  any_eq_of_rel (h m) Condition.Alike.isFalse

theorem reports_of_alike (m : Milestone) : s.reports m = t.reports m :=
  isSome_eq_of_rel (h m)

theorem hasFailed_of_alike
    (hphase : Option.Rel (fun p q => Text.sameLetters p q = true) s.statusPhase t.statusPhase) :
    s.hasFailed = t.hasFailed := by
  have hwritten : s.statusPhase.any (Text.sameLetters · "failed") =
      t.statusPhase.any (Text.sameLetters · "failed") :=
    any_eq_of_rel hphase fun hsame => Text.sameLetters_congr_left hsame "failed"
  have hdenied := any_eq_of_rel (h .ready)
    (p := fun c => c.isFalse && failureReasons.contains c.reason)
    fun halike => by rw [halike.isFalse, halike.reason]
  rw [hasFailed, hasFailed, hwritten, reached_of_alike h, hdenied]

theorem classify_of_alike
    (hphase : Option.Rel (fun p q => Text.sameLetters p q = true) s.statusPhase t.statusPhase)
    (hevents : events.any Event.isInstalling = events'.any Event.isInstalling) :
    s.classify events = t.classify events' := by
  unfold classify
  simp only [hasFailed_of_alike h hphase, reached_of_alike h, pending_of_alike h,
    any_isRecognised, funext (reports_of_alike h), hevents]

theorem estimate_of_alike (hs : Condition.Distinct s.conditions)
    (ht : Condition.Distinct t.conditions) (phase : Phase) :
    phase.estimate s.conditions = phase.estimate t.conditions := by
  have happlies : ∀ row : Estimate,
      row.applies phase s.conditions = row.applies phase t.conditions := by
    intro row
    rw [Bool.eq_iff_iff, Estimate.applies_iff, Estimate.applies_iff, isReported_iff hs,
      isReported_iff ht, any_eq_of_rel (h row.milestone)
        fun halike => Text.sameLetters_congr_left halike.status row.status]
  unfold Phase.estimate
  simp only [happlies]

theorem drivingCondition_of_alike (phase : Phase) :
    Option.Rel Condition.Alike (s.drivingCondition phase) (t.drivingCondition phase) := by
  cases phase with
  | failed => exact rel_or (rel_filter_isTrue (h .failed)) (h .ready)
  | ready | unknown => exact h .ready
  | provisioning => exact h .infrastructure
  | bootstrapping => exact rel_or (h .controlPlane) (h .infrastructure)
  | scaling => exact h .workers
  | installing | initializing => exact .none

theorem summarize_of_alike (phase : Phase) : s.summarize phase = t.summarize phase := by
  have hdriving := drivingCondition_of_alike h phase
  have hdefault : s.defaultMessage phase = t.defaultMessage phase := by
    cases phase <;> simp only [defaultMessage, reached_of_alike h]
  unfold summarize
  simp only [map_eq_of_rel hdriving Condition.Alike.message,
    map_eq_of_rel hdriving Condition.Alike.reason, hdefault]

end Found

/-- What is found about the milestones decides a judgement, with the evidence among the events. -/
theorem judgement_congr (hs : Condition.Distinct s.conditions)
    (ht : Condition.Distinct t.conditions)
    (hphase : Option.Rel (fun p q => Text.sameLetters p q = true) s.statusPhase t.statusPhase)
    (halike : ∀ m, s.AlikeAbout t m)
    (hevents : events.any Event.isInstalling = events'.any Event.isInstalling) :
    s.judgement events = t.judgement events' := by
  have hfound := fun m => alike_milestone? hs ht (halike m)
  unfold judgement
  rw [classify_of_alike hfound hphase hevents, estimate_of_alike hfound hs ht,
    summarize_of_alike hfound]

/-! ## Order, letter case and all that is beside the point -/

theorem exists_alike_of_perm
    (h : (s.recognised.map Condition.folded).Perm (t.recognised.map Condition.folded))
    {c : Condition} (hc : c ∈ s.conditions) (htype : c.type = m.conditionType) :
    ∃ d ∈ t.conditions, c.Alike d := by
  have hrecognised : c ∈ s.recognised :=
    List.mem_filter.mpr ⟨hc, Condition.isRecognised_of_type htype⟩
  obtain ⟨d, hd, hfolded⟩ :=
    List.mem_map.mp (h.mem_iff.mp (List.mem_map_of_mem (f := Condition.folded) hrecognised))
  exact ⟨d, (List.mem_filter.mp hd).1, Condition.alike_iff_folded.mpr hfolded.symm⟩

/-- Snapshots say the same about every milestone if their recognised conditions are the same, in
whatever order and letter case. -/
theorem alikeAbout_of_perm
    (h : (s.recognised.map Condition.folded).Perm (t.recognised.map Condition.folded))
    (m : Milestone) : s.AlikeAbout t m := by
  by_cases hreported : ∃ c ∈ s.conditions, c.type = m.conditionType
  · obtain ⟨c, hc, htype⟩ := hreported
    obtain ⟨d, hd, halike⟩ := exists_alike_of_perm h hc htype
    exact .inr ⟨c, hc, d, hd, htype, halike⟩
  · refine .inl ⟨fun c hc htype => hreported ⟨c, hc, htype⟩, fun d hd htype => hreported ?_⟩
    obtain ⟨c, hc, halike⟩ := exists_alike_of_perm h.symm hd htype
    exact ⟨c, hc, halike.type ▸ htype⟩

/-- Two snapshots repeat no condition type, and their controllers wrote no phase or the same one up
to letter case.  If they say the same about each of the five milestones, and there is evidence of an
installation among both of two lists of events or among neither, they are judged alike: phase,
estimate, message, reason and severity.  So what else is known of the cluster and its services, what
other conditions there are, the order of conditions and events and the letter case of statuses make
no difference. -/
theorem judgement_of_alike (hs : Condition.Distinct s.conditions)
    (ht : Condition.Distinct t.conditions)
    (hphase : Option.Rel (fun p q => Text.sameLetters p q = true) s.statusPhase t.statusPhase) :
    ((∀ m, s.AlikeAbout t m) →
      ((∃ e ∈ events, e.isInstalling = true) ↔ ∃ e ∈ events', e.isInstalling = true) →
        s.judgement events = t.judgement events') ∧
    ((s.recognised.map Condition.folded).Perm (t.recognised.map Condition.folded) →
      events.Perm events' → s.judgement events = t.judgement events') := by
  constructor
  · intro halike hevents
    refine judgement_congr hs ht hphase halike ?_
    rw [Bool.eq_iff_iff, List.any_eq_true, List.any_eq_true]
    exact hevents
  · intro hperm hevents
    refine judgement_congr hs ht hphase (alikeAbout_of_perm hperm) ?_
    rw [Bool.eq_iff_iff, List.any_eq_true, List.any_eq_true]
    simp only [hevents.mem_iff]

/-- Workers are available and add-on services are being installed.  The conditions are listed the
other way round, in other letters, and with another one that says nothing. -/
theorem judgement_of_alike_in_other_letters :
    let s : Snapshot :=
      { Snapshot.blank with
        statusPhase := some "Provisioning"
        conditions :=
          [ ⟨"WorkersAvailable", "True", "MinimumReplicas", "3 of 3 nodes"⟩,
            ⟨"Ready", "False", "Waiting", "Add-ons"⟩ ] }
    let t : Snapshot :=
      { Snapshot.blank with
        statusPhase := some "PROVISIONING"
        conditions :=
          [ ⟨"Paused", "False", "", ""⟩, ⟨"Ready", "FALSE", "Waiting", "Add-ons"⟩,
            ⟨"WorkersAvailable", "tRUE", "MinimumReplicas", "3 of 3 nodes"⟩ ]
        services := [default] }
    let evidence : Event := ⟨⟨"ServiceSet", "a-x", some "ns"⟩, "ServiceInstalling", "", "Normal",
      none, none, none⟩
    let other : Event := ⟨⟨"Machine", "a-y", some "ns"⟩, "Started", "", "Normal", none, none, none⟩
    Condition.Distinct s.conditions ∧ Condition.Distinct t.conditions ∧ (∀ m, s.AlikeAbout t m) ∧
      s.judgement [evidence] =
        ⟨.installing, some 90, ⟨"Installing add-on services", "Installing", .info⟩⟩ ∧
      t.judgement [other, evidence] = s.judgement [evidence] := by
  intro s t evidence other
  have hs : Condition.Distinct s.conditions := by
    unfold Condition.Distinct
    decide
  have ht : Condition.Distinct t.conditions := by
    unfold Condition.Distinct
    decide
  have halike : ∀ m, s.AlikeAbout t m := alikeAbout_of_perm (by decide)
  have hjudgement : s.judgement [evidence] =
      ⟨.installing, some 90, ⟨"Installing add-on services", "Installing", .info⟩⟩ := by
    decide
  have hsame : s.judgement [evidence] = t.judgement [other, evidence] :=
    (judgement_of_alike hs ht (.some (by decide))).1 halike (by decide)
  exact ⟨hs, ht, halike, hjudgement, hsame.symm⟩

end Snapshot
end ProvisionWatch

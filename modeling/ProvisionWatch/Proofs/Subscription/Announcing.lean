import ProvisionWatch.Proofs.Subscription.Cutoff
import ProvisionWatch.Proofs.Subscription.Evidence

/-!
# Announced installations

Two tables know of services being installed.  The rules announce it at once, for
two reasons of whatever object; the evidence decides what a later change says,
and takes three reasons, of service sets only.  Where the two tables agree, an
announcement is confirmed by the next change of an undecided deployment.

Main results:

- Theorem `announces_agree_iff`: where the two tables agree.
- Theorem `installing_announced`: which events change what the next change will
  say, and which announcements it confirms.
- Theorem `installing_announced_of_one_table`: each table has an event of its
  own.
-/

namespace ProvisionWatch

/-! ## The two tables -/

namespace Event

/-- Services of some object are said to be installed, in the words of a standard rule. -/
def IsAnnounced (e : Event) : Prop :=
  e.reason = "ServiceInstalling" ∨ e.reason = "ServiceSetInstalling"

/-- Evidence for which there is no standard rule. -/
def IsUnannounced (e : Event) : Prop :=
  e.involved.kind = serviceSetKind ∧ e.reason = "ServicesInstalling"

/-- Evidence is what is announced of service sets, and what is not announced at all. -/
theorem isInstalling_iff {e : Event} :
    e.isInstalling = true ↔
      (e.involved.kind = serviceSetKind ∧ e.IsAnnounced) ∨ e.IsUnannounced := by
  simp only [isInstalling, installingReasons, IsAnnounced, IsUnannounced, Bool.and_eq_true,
    beq_iff_eq, List.contains_cons, List.contains_nil, Bool.or_eq_true, Bool.false_eq_true,
    or_false]
  rw [← and_or_left]
  refine and_congr_right fun _ => ?_
  rw [or_assoc, or_comm (a := e.reason = "ServiceSetInstalling")]

theorem not_isAnnounced_of_isUnannounced {e : Event} (h : e.IsUnannounced) : ¬ e.IsAnnounced := by
  rw [IsAnnounced, h.2]
  decide

end Event

namespace Scope

/-- The phase that an event in scope is mapped to is that of the first rule for its reason. -/
theorem phase_evaluate {s : Scope} {e : Event} (h : s.covers e = true) (now : Instant) :
    (s.evaluate e now).map Evaluation.phase = (s.rule? e.reason).map Rule.phase := by
  rw [evaluate, if_pos h, Option.map_map]
  rfl

/-- The standard rules map just the announced events to the installation of services. -/
theorem announces_iff {s : Scope} (hrules : s.rules = Rule.standard) {e : Event}
    (h : s.covers e = true) (now : Instant) :
    (s.evaluate e now).map Evaluation.phase = some .installing ↔ e.IsAnnounced := by
  rw [phase_evaluate h, rule?, hrules, Rule.standard, Event.IsAnnounced]
  by_cases hfirst : e.reason = "ServiceInstalling"
  · rw [hfirst]
    decide
  · by_cases hsecond : e.reason = "ServiceSetInstalling"
    · rw [hsecond]
      decide
    · simp only [hfirst, hsecond, or_self, iff_false]
      rw [List.find?_cons_of_neg (by simpa using Ne.symm hfirst),
        List.find?_cons_of_neg (by simpa using Ne.symm hsecond)]
      intro hphase
      obtain ⟨rule, hrule, hinstalling⟩ := Option.map_eq_some_iff.mp hphase
      have hmem := List.mem_of_find?_eq_some hrule
      simp only [List.mem_cons, List.not_mem_nil, or_false] at hmem
      rcases hmem with rfl | rfl <;> cases hinstalling

/-- The two tables agree on an event in scope unless it is announced of something else than a
service set, or not announced of a service set. -/
theorem announces_agree_iff {s : Scope} (hrules : s.rules = Rule.standard) {e : Event}
    (h : s.covers e = true) (now : Instant) :
    ((s.evaluate e now).map Evaluation.phase = some .installing ↔ e.isInstalling = true) ↔
      ¬ (e.IsAnnounced ∧ e.involved.kind ≠ Event.serviceSetKind) ∧ ¬ e.IsUnannounced := by
  rw [announces_iff hrules h, Event.isInstalling_iff]
  have hapart := Event.not_isAnnounced_of_isUnannounced (e := e)
  by_cases hunannounced : e.IsUnannounced
  · simp [hunannounced, hapart hunannounced]
  · simp only [hunannounced, or_false, not_false_eq_true, and_true]
    by_cases hannounced : e.IsAnnounced <;> simp [hannounced]

end Scope

namespace Subscription

variable {s s' : Subscription} {e : Event} {now : Instant} {update : Option Update}

/-! ## What an event says -/

/-- An event that could be taken in says what its evaluation comes to. -/
theorem applyEvent_ok (h : s.applyEvent e now = (s', .ok update)) :
    update = s.evaluateEvent e now ∧ s'.scope = (s.scope.observe e now).1 := by
  have hscope := s.scope_applyEvent e now
  rw [h] at hscope
  refine ⟨?_, hscope⟩
  unfold applyEvent at h
  split at h
  · exact (Except.ok.inj (congrArg Prod.snd h)).symm
  · cases congrArg Prod.snd h

/-- As long as the last snapshot is undecided, the update of an event is in the phase of its
rule. -/
theorem phase_evaluateEvent (h : ((s.lastSnapshot.getD .blank).classify []).isTerminal = false) :
    (s.evaluateEvent e now).map Update.phase =
      (s.scope.evaluate e now).map Evaluation.phase := by
  have hgoing : ((s.lastSnapshot.getD .blank).classify (s.scope.covered ++ [e])).isTerminal =
      false := by
    rw [Snapshot.isTerminal_classify, ← Snapshot.isTerminal_classify _ []]
    exact h
  unfold evaluateEvent
  rw [Option.map_map]
  refine Option.map_congr fun evaluation _ => ?_
  show (if _ then _ else evaluation.phase) = evaluation.phase
  rw [hgoing, if_neg Bool.false_ne_true]

/-! ## What a later change says -/

/-- Evidence that shows after an event was there before, or it is the event. -/
theorem showsInstalling_observe {scope : Scope}
    (h : (scope.observe e now).1.showsInstalling = true) :
    scope.showsInstalling = true ∨ e.isInstalling = true := by
  obtain ⟨x, hx⟩ := Scope.showsInstalling_iff.mp h
  rcases Scope.mem_of_mem_evidence_observe hx with hold | ⟨rfl, -, hevidence⟩
  · exact .inl (Scope.showsInstalling_iff.mpr ⟨x, hold⟩)
  · exact .inr hevidence

/-- Retained evidence in scope is confirmed by a change of an undecided deployment. -/
theorem phase_applyChange_of_retained (hcovered : s.scope.covers e = true)
    (hevidence : e.isInstalling = true) (hretained : e ∈ s.scope.window.events)
    {change : Change} (hkind : change.kind ≠ .deleted)
    (hundecided : (change.deployment.snapshot.classify []).isTerminal = false)
    (later : Instant) : (s.applyChange change later).2.phase = .installing := by
  rw [Snapshot.isTerminal_classify] at hundecided
  rw [phase_applyChange_eq _ hkind, if_pos]
  exact ⟨hundecided, Scope.showsInstalling_iff.mpr
    ⟨e, Scope.mem_evidence.mpr ⟨hretained, hcovered, hevidence⟩⟩⟩

/-- An event in scope of a subscription with the standard rules is taken in while the last snapshot
is undecided.  The rules map it to the installation of services, and its update announces that,
exactly if its reason is one of two; it is evidence exactly if this is said of a service set, or if
it is a service set's third reason.  So the two tables agree but for announcements about anything
else and for that third reason.  What a later change says turns into an installation by such
evidence only, and otherwise it turns only where older evidence is pruned away.  For as long as the
evidence is retained, every change of an undecided deployment confirms it. -/
theorem installing_announced (hrules : s.scope.rules = Rule.standard)
    (hcovers : s.scope.covers e = true) (happly : s.applyEvent e now = (s', .ok update))
    (hundecided : ((s.lastSnapshot.getD .blank).classify []).isTerminal = false) :
    ((s.scope.evaluate e now).map Evaluation.phase = some .installing ↔ e.IsAnnounced) ∧
    (((s.scope.evaluate e now).map Evaluation.phase = some .installing ↔ e.isInstalling = true) ↔
      ¬ (e.IsAnnounced ∧ e.involved.kind ≠ Event.serviceSetKind) ∧ ¬ e.IsUnannounced) ∧
    (update.map Update.phase = some .installing ↔ e.IsAnnounced) ∧
    (e.isInstalling = true ↔
      (e.involved.kind = Event.serviceSetKind ∧ e.IsAnnounced) ∨ e.IsUnannounced) ∧
    (∀ change : Change, change.kind ≠ .deleted → ∀ later,
      (s'.applyChange change later).2.phase = (s.applyChange change later).2.phase ∨
      ((s'.applyChange change later).2.phase = .installing ∧ e.isInstalling = true ∧
        (update.map Update.phase = some .installing ∨ e.IsUnannounced)) ∨
      ((s.applyChange change later).2.phase = .installing ∧
        (s'.applyChange change later).2.phase = change.deployment.snapshot.classify [])) ∧
    ((update.map Update.phase = some .installing ∧ e.involved.kind = Event.serviceSetKind) ∨
        e.IsUnannounced →
      ∀ done, e ∈ (s'.performAll done).scope.window.events →
      ∀ change : Change, change.kind ≠ .deleted →
        (change.deployment.snapshot.classify []).isTerminal = false → ∀ later,
          ((s'.performAll done).applyChange change later).2.phase = .installing) := by
  obtain ⟨rfl, hscope⟩ := applyEvent_ok happly
  have hannounces := Scope.announces_iff hrules hcovers now
  rw [phase_evaluateEvent hundecided]
  refine ⟨hannounces, Scope.announces_agree_iff hrules hcovers now, hannounces,
    Event.isInstalling_iff, ?_, ?_⟩
  · intro change hkind later
    rw [phase_applyChange_eq _ hkind, phase_applyChange_eq _ hkind]
    cases hdecided : change.deployment.snapshot.isDecided with
    | true => exact .inl rfl
    | false =>
        cases hbefore : s.scope.showsInstalling <;> cases hafter : s'.scope.showsInstalling
        · exact .inl rfl
        · -- The evidence is new, so it is the event.
          rw [hscope] at hafter
          have hevidence := (showsInstalling_observe hafter).resolve_left (by simp [hbefore])
          refine .inr (.inl ⟨rfl, hevidence, ?_⟩)
          rcases Event.isInstalling_iff.mp hevidence with hannounced | hunannounced
          · exact .inl (hannounces.mpr hannounced.2)
          · exact .inr hunannounced
        · exact .inr (.inr ⟨rfl, rfl⟩)
        · exact .inl rfl
  · intro htold done hretained change hkind hgoing later
    have hcleared : (s'.performAll done).scope.cleared = s.scope.cleared := by
      rw [cleared_performAll, hscope, Scope.cleared_observe]
    have hcovered : (s'.performAll done).scope.covers e = true := by
      rw [Scope.covers_of_cleared hcleared]
      exact hcovers
    have hevidence : e.isInstalling = true :=
      Event.isInstalling_iff.mpr (htold.imp_left fun h => ⟨h.2, hannounces.mp h.1⟩)
    exact phase_applyChange_of_retained hcovered hevidence hretained hkind hgoing later

/-- A service set of a deployment about which nothing is known is being installed: this is
announced, and confirmed after a tick a minute later. -/
theorem installing_announced_of_service_set :
    let e : Event := ⟨⟨"ServiceSet", "a-x", some "ns"⟩, "ServiceInstalling", "", "Normal",
      some default, none, none⟩
    let minute : Instant := ⟨60, 0, by decide, by decide, by decide⟩
    ∃ s' update,
      (Manager.newSubscription ⟨.standard, Rule.standard, .all⟩ ⟨"ann", ⟨"ns", "a"⟩, none⟩
        default).applyEvent e default = (s', .ok update) ∧
      update.map Update.phase = some .installing ∧
      ((s'.performAll [(minute, .tick)]).applyChange ⟨⟨.blank, .blank, none⟩, .modified⟩
        minute).2.phase = .installing := by
  intro e minute
  let s := Manager.newSubscription ⟨.standard, Rule.standard, .all⟩ ⟨"ann", ⟨"ns", "a"⟩, none⟩
    default
  have hsays : (s.applyEvent e default).2.toOption.map (fun u => u.map Update.phase) =
      some (some .installing) := by
    decide +kernel
  have hretained : e ∈ ((s.applyEvent e default).1.performAll
      [(minute, .tick)]).scope.window.events := by
    decide +kernel
  rcases happly : s.applyEvent e default with ⟨s', result⟩
  rw [happly] at hsays hretained
  cases result with
  | error fault => cases hsays
  | ok update =>
      have hannounced : update.map Update.phase = some .installing := Option.some.inj hsays
      obtain ⟨-, -, -, -, -, hconfirmed⟩ :=
        installing_announced (s := s) rfl (by decide +kernel) happly (by decide +kernel)
      exact ⟨s', update, rfl, hannounced,
        hconfirmed (.inl ⟨hannounced, by decide +kernel⟩) _ hretained _ (by decide)
          (by decide +kernel) minute⟩

/-- Services of a machine that are installed are announced, which no change confirms.  A third
reason of a service set is not announced, and the next change tells of an installation. -/
theorem installing_announced_of_one_table :
    let s := Manager.newSubscription ⟨.standard, Rule.standard, .all⟩ ⟨"ann", ⟨"ns", "a"⟩, none⟩
      default
    let change : Change := ⟨⟨.blank, .blank, none⟩, .modified⟩
    let ofMachine : Event := ⟨⟨"Machine", "a-x", some "ns"⟩, "ServiceInstalling", "", "Normal",
      none, none, none⟩
    let ofServiceSet : Event := ⟨⟨"ServiceSet", "a-x", some "ns"⟩, "ServicesInstalling", "",
      "Normal", none, none, none⟩
    s.scope.rules = Rule.standard ∧ s.scope.covers ofMachine = true ∧
      s.scope.covers ofServiceSet = true ∧
      (change.deployment.snapshot.classify []).isTerminal = false ∧
      ((s.scope.evaluate ofMachine default).map Evaluation.phase = some .installing ∧
        ofMachine.isInstalling = false ∧
        ((s.applyEvent ofMachine default).1.applyChange change default).2.phase = .initializing) ∧
      (s.scope.evaluate ofServiceSet default = none ∧ ofServiceSet.isInstalling = true ∧
        (s.applyChange change default).2.phase = .initializing ∧
        ((s.applyEvent ofServiceSet default).1.applyChange change default).2.phase =
          .installing) := by
  decide +kernel

end Subscription
end ProvisionWatch

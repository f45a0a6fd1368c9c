import Mathlib.Logic.Basic
import ProvisionWatch.Proofs.Session.Core

/-!
# Evidence of installation

Whatever the recent events are, a classification asks only one thing of them:
whether there is evidence among them that add-on services are being installed.
If there is, an undecided snapshot is installing.  Otherwise, and wherever the
snapshot is decided, the conditions alone count.

So all that a scope has to say to a change is whether it retains evidence.  What
becomes of the evidence when a window is pruned or takes in another event can be
told exactly, as long as the window keeps its number.

Main results:

- Theorem `classify_eq`: what events contribute to a classification.
- Theorem `classify_eq_installing_iff`: only evidence makes a deployment
  installing.
- Theorem `Update.ofSnapshot_congr`: updates differ only where evidence does.
- Theorem `Scope.evidence_prune`, `Scope.evidence_observe`: what becomes of the
  evidence.
- Theorem `Subscription.phase_applyChange_eq`: what a change makes of it.
-/

namespace ProvisionWatch

namespace Snapshot

variable {s : Snapshot} {events events' : List Event}

/-- The conditions alone never tell of services being installed. -/
theorem classify_nil_ne_installing (s : Snapshot) : s.classify [] ≠ .installing := by
  unfold classify
  simp only [List.any_nil, Bool.false_eq_true, if_false]
  repeat' split
  all_goals decide

/-- An undecided snapshot is installing as soon as there is evidence. -/
theorem classify_of_evidence (hundecided : s.isDecided = false)
    (h : events.any Event.isInstalling = true) : s.classify events = .installing := by
  obtain ⟨hfailed, hready⟩ := Bool.or_eq_false_iff.mp hundecided
  unfold classify
  simp only [hfailed, hready, h, Bool.false_eq_true, if_false, if_true]

/-- Events are only asked for evidence. -/
theorem classify_congr (h : events.any Event.isInstalling = events'.any Event.isInstalling) :
    s.classify events = s.classify events' := by
  unfold classify
  rw [h]

/-- Events without evidence contribute nothing. -/
theorem classify_of_no_evidence (h : events.any Event.isInstalling = false) :
    s.classify events = s.classify [] :=
  classify_congr h

/-- Events contribute evidence and nothing else, and only to an undecided snapshot. -/
theorem classify_eq (s : Snapshot) (events : List Event) :
    s.classify events =
      if s.isDecided = false ∧ events.any Event.isInstalling = true then .installing
      else s.classify [] := by
  split
  · rename_i h
    exact classify_of_evidence h.1 h.2
  · rename_i h
    cases hdecided : s.isDecided with
    | true => exact classify_of_isDecided hdecided events
    | false => exact classify_of_no_evidence (Bool.eq_false_iff.mpr fun hany => h ⟨hdecided, hany⟩)

theorem classify_eq_installing_iff :
    s.classify events = .installing ↔
      s.isDecided = false ∧ events.any Event.isInstalling = true := by
  rw [classify_eq]
  split
  · rename_i h
    exact ⟨fun _ => h, fun _ => rfl⟩
  · rename_i h
    exact ⟨fun hnil => absurd hnil s.classify_nil_ne_installing, fun hboth => absurd hboth h⟩

end Snapshot

/-! ## Updates -/

namespace Update

variable {s : Snapshot} {events events' : List Event}

theorem phase_ofSnapshot (s : Snapshot) (events : List Event) (now : Instant) :
    (ofSnapshot s events now).phase = s.classify events :=
  rfl

/-- Updates of one snapshot differ only where the classification does. -/
theorem ofSnapshot_of_classify (h : s.classify events = s.classify events') (now : Instant) :
    ofSnapshot s events now = ofSnapshot s events' now := by
  unfold ofSnapshot
  rw [h]

theorem ofSnapshot_congr (h : events.any Event.isInstalling = events'.any Event.isInstalling)
    (now : Instant) : ofSnapshot s events now = ofSnapshot s events' now :=
  ofSnapshot_of_classify (Snapshot.classify_congr h) now

/-- Some events are left aside: the update stays the same exactly if the snapshot is decided, or
there was no evidence, or there is evidence left. -/
theorem ofSnapshot_filter_eq_iff {keep : Event → Bool} {now : Instant} :
    ofSnapshot s events now = ofSnapshot s (events.filter keep) now ↔
      s.isDecided = true ∨ (events.any Event.isInstalling = true →
        ∃ e ∈ events, keep e = true ∧ e.isInstalling = true) := by
  have hleft : (events.filter keep).any Event.isInstalling = true ↔
      ∃ e ∈ events, keep e = true ∧ e.isInstalling = true := by
    simp only [List.any_eq_true, List.mem_filter, and_assoc]
  rw [← hleft]
  constructor
  · intro heq
    have hphase : s.classify events = s.classify (events.filter keep) :=
      congrArg Update.phase heq
    rw [or_iff_not_imp_left, Bool.not_eq_true]
    intro hundecided hany
    rw [Snapshot.classify_of_evidence hundecided hany] at hphase
    exact (Snapshot.classify_eq_installing_iff.mp hphase.symm).2
  · rintro (hdecided | hstays)
    · exact (ofSnapshot_of_isDecided hdecided events now).trans
        (ofSnapshot_of_isDecided hdecided (events.filter keep) now).symm
    · refine ofSnapshot_congr (Bool.eq_iff_iff.mpr ⟨hstays, fun hany => ?_⟩) now
      obtain ⟨e, he, hevidence⟩ := List.any_eq_true.mp hany
      exact List.any_eq_true.mpr ⟨e, (List.mem_filter.mp he).1, hevidence⟩

end Update

/-! ## Windows and scopes -/

/-- An event is dated, and too old to be retained at a reading of the clock. -/
def Retention.outdates (r : Retention) (now : Instant) (e : Event) : Bool :=
  (now.sub? r.age).any fun cutoff => !Window.isFresh cutoff e

/-- An undated event is never too old. -/
theorem Retention.outdates_of_undated {r : Retention} {now : Instant} {e : Event}
    (h : e.timestamp = none) : r.outdates now e = false := by
  unfold outdates Window.isFresh
  rw [h]
  cases now.sub? r.age <;> rfl

/-- Pruning adds no event. -/
theorem Window.mem_of_mem_prune {w : Window} {now : Instant} {e : Event}
    (h : e ∈ (w.prune now).1.events) : e ∈ w.events := by
  unfold prune at h
  split at h
  · rename_i cutoff hcutoff
    exact (List.mem_filter.mp ((pruned_suffix w.retention cutoff w.events).mem h)).1
  · exact h

/-- As long as a window keeps its number, pruning takes away what is too old. -/
theorem Window.events_prune {w : Window} {now : Instant}
    (hroom : w.events.length ≤ w.retention.count) :
    (w.prune now).1.events = w.events.filter fun e => !w.retention.outdates now e := by
  unfold prune Retention.outdates
  split
  · rename_i cutoff hcutoff
    have hfew := Nat.le_trans (List.length_filter_le (isFresh cutoff) w.events) hroom
    simp only [pruned, lastOf, hcutoff, Option.any_some, Bool.not_not]
    rw [Nat.sub_eq_zero_of_le hfew, List.drop_zero]
  · rename_i hnone
    refine (List.filter_eq_self.mpr fun e _ => ?_).symm
    rw [hnone]
    rfl

theorem Window.length_prune_le (w : Window) (now : Instant) :
    (w.prune now).1.events.length ≤ w.events.length := by
  unfold prune
  split
  · rename_i cutoff hcutoff
    exact Nat.le_trans (pruned_suffix w.retention cutoff w.events).length_le
      (List.length_filter_le _ _)
  · exact Nat.le_refl _

namespace Scope

/-- Scopes that differ in the events seen have the same events in scope. -/
theorem covers_of_cleared {s t : Scope} (h : s.cleared = t.cleared) : s.covers = t.covers := by
  have htarget : s.cleared.target = t.cleared.target := congrArg Scope.target h
  funext e
  unfold covers
  rw [show s.target = t.target from htarget]

/-- Whether evidence in scope is retained. -/
def showsInstalling (s : Scope) : Bool :=
  s.covered.any Event.isInstalling

/-- The retained evidence in scope, the first that arrived in front. -/
def evidence (s : Scope) : List Event :=
  s.window.events.filter fun e => s.covers e && e.isInstalling

@[simp, grind =]
theorem mem_evidence {s : Scope} {e : Event} :
    e ∈ s.evidence ↔ e ∈ s.window.events ∧ s.covers e = true ∧ e.isInstalling = true := by
  rw [evidence, List.mem_filter, Bool.and_eq_true]

theorem showsInstalling_iff {s : Scope} :
    s.showsInstalling = true ↔ ∃ e, e ∈ s.evidence := by
  simp only [showsInstalling, covered, Window.newestFirst, List.any_eq_true, List.mem_filter,
    List.mem_reverse, mem_evidence, and_assoc]

theorem showsInstalling_congr {s t : Scope} (h : s.evidence = t.evidence) :
    s.showsInstalling = t.showsInstalling := by
  rw [Bool.eq_iff_iff, showsInstalling_iff, showsInstalling_iff, h]

/-- An observed event joins the evidence, if anything. -/
theorem mem_of_mem_evidence_observe {s : Scope} {e observed : Event} {now : Instant}
    (h : e ∈ (s.observe observed now).1.evidence) :
    e ∈ s.evidence ∨ (e = observed ∧ s.covers e = true ∧ e.isInstalling = true) := by
  obtain ⟨hmem, hcovers, hevidence⟩ := mem_evidence.mp h
  rw [covers_of_cleared (s.cleared_observe observed now)] at hcovers
  have hpushed : e ∈ s.window.events ++ [observed] :=
    Window.mem_of_mem_prune (w := { s.window with events := s.window.events ++ [observed] }) hmem
  rcases List.mem_append.mp hpushed with hold | hnew
  · exact .inl (mem_evidence.mpr ⟨hold, hcovers, hevidence⟩)
  · exact .inr ⟨List.mem_singleton.mp hnew, hcovers, hevidence⟩

/-- As long as the window keeps its number, pruning takes away the evidence that is too old. -/
theorem evidence_prune {s : Scope} {now : Instant}
    (hroom : s.window.events.length ≤ s.window.retention.count) :
    (s.prune now).1.evidence = s.evidence.filter fun e => !s.window.retention.outdates now e := by
  unfold evidence
  rw [covers_of_cleared (s.cleared_prune now),
    show (s.prune now).1.window.events = _ from Window.events_prune hroom, List.filter_filter,
    List.filter_filter]
  exact List.filter_congr fun e _ => Bool.and_comm _ _

/-- As long as the window keeps its number, an observed event joins the evidence if it is evidence
in scope, and pruning takes away what is too old. -/
theorem evidence_observe {s : Scope} {e : Event} {now : Instant}
    (hroom : s.window.events.length < s.window.retention.count) :
    (s.observe e now).1.evidence =
      (s.evidence ++ [e].filter fun e => s.covers e && e.isInstalling).filter fun e =>
        !s.window.retention.outdates now e := by
  let pushed : Scope := { s with window := { s.window with events := s.window.events ++ [e] } }
  have hpushed : pushed.window.events.length ≤ pushed.window.retention.count := by
    show (s.window.events ++ [e]).length ≤ s.window.retention.count
    rw [List.length_append, List.length_singleton]
    exact hroom
  have hevidence : pushed.evidence =
      s.evidence ++ [e].filter fun e => s.covers e && e.isInstalling :=
    List.filter_append _ _
  rw [← hevidence]
  exact evidence_prune hpushed

theorem length_observe_le (s : Scope) (e : Event) (now : Instant) :
    (s.observe e now).1.window.events.length ≤ s.window.events.length + 1 := by
  have hpushed :=
    Window.length_prune_le { s.window with events := s.window.events ++ [e] } now
  rw [List.length_append, List.length_singleton] at hpushed
  exact hpushed

end Scope

/-! ## Changes -/

namespace Subscription

@[simp]
theorem scope_applyChange (s : Subscription) (change : Change) (now : Instant) :
    (s.applyChange change now).1.scope = s.scope := by
  cases hkind : change.kind <;> simp [applyChange, hkind]

/-- A change that is no deletion says what its snapshot comes to in the light of the retained events
in scope. -/
theorem update_applyChange (s : Subscription) {change : Change} (h : change.kind ≠ .deleted)
    (now : Instant) :
    (s.applyChange change now).2 =
      Update.ofSnapshot change.deployment.snapshot s.scope.covered now := by
  unfold applyChange
  split
  · contradiction
  · rfl
  · rfl

/-- A change that is no deletion is in the phase of its snapshot, in the light of whether evidence
in scope is retained. -/
theorem phase_applyChange_eq (s : Subscription) {change : Change} (h : change.kind ≠ .deleted)
    (now : Instant) :
    (s.applyChange change now).2.phase =
      if change.deployment.snapshot.isDecided = false ∧ s.scope.showsInstalling = true then
        .installing
      else change.deployment.snapshot.classify [] := by
  rw [update_applyChange s h now, Update.phase_ofSnapshot, Snapshot.classify_eq]
  rfl

end Subscription
end ProvisionWatch

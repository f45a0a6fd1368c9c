import Mathlib.Data.List.Induction
import ProvisionWatch.Proofs.Subscription.Cutoff
import ProvisionWatch.Proofs.Subscription.Evidence

/-!
# Evidence that ages

Retained events are pruned where events are taken in and where the timer ticks,
and nowhere else.  A change of the deployment reads the window as the last of
these has left it.  So evidence that was too old then is gone, and evidence that
has become too old since still counts, until the next event or tick.

Main results:

- Theorem `upToDate_performAll`: whatever was done, no retained event was too old
  when the window was last pruned.
- Theorem `outdated_evidence_never_counts`: the update of a change is the one it
  would be if the retained events that were too old then had never been seen.
- Theorem `outdated_evidence_counts_until_pruned`: by the reading of the change
  itself this fails.
-/

namespace ProvisionWatch

/-! ## Old events -/

namespace Window

/-- What a window retains if it was last pruned at some reading, or never was. -/
def UpToDate (w : Window) : Option Instant → Prop
  | none => w.events = []
  | some look => ∀ e ∈ w.events, w.retention.outdates look e = false

/-- Pruning leaves no event that is too old. -/
theorem upToDate_prune {w : Window} {now : Instant}
    (h : (now.sub? w.retention.age).isSome = true) : (w.prune now).1.UpToDate (some now) := by
  obtain ⟨cutoff, hcutoff⟩ := Option.isSome_iff_exists.mp h
  intro e he
  rw [prune, hcutoff] at he ⊢
  have hfresh : isFresh cutoff e = true :=
    (List.mem_filter.mp ((pruned_suffix w.retention cutoff w.events).mem he)).2
  show (now.sub? w.retention.age).any (fun cutoff => !isFresh cutoff e) = false
  rw [hcutoff, Option.any_some, hfresh]
  rfl

end Window

namespace Scope

theorem upToDate_observe {s : Scope} (e : Event) {now : Instant}
    (h : (now.sub? s.window.retention.age).isSome = true) :
    (s.observe e now).1.window.UpToDate (some now) :=
  Window.upToDate_prune (w := { s.window with events := s.window.events ++ [e] }) h

end Scope

namespace Subscription

/-! ## Looking back -/

/-- Events that are retained one after the other leave none that is too old. -/
theorem upToDate_observeAll {scope : Scope} {now : Instant} {es : List Event} (hes : es ≠ [])
    (h : (now.sub? scope.window.retention.age).isSome = true) :
    (observeAll scope now es).1.window.UpToDate (some now) := by
  induction es generalizing scope with
  | nil => exact absurd rfl hes
  | cons e rest ih =>
      have hdate := scope.upToDate_observe e h
      have hretention := Scope.retention_of_cleared (scope.cleared_observe e now)
      unfold observeAll
      split
      · rename_i next hobserve
        rw [hobserve] at hdate hretention
        cases rest with
        | nil => exact hdate
        | cons e' rest => exact ih (List.cons_ne_nil e' rest) (hretention ▸ h)
      · rename_i next fault hobserve
        rw [hobserve] at hdate
        exact hdate

@[simp]
theorem scope_seed (s : Subscription) (listed : List Event) (limit : Nat) (now : Instant) :
    (s.seed listed limit now).1.scope =
      (observeAll s.scope now (Window.lastOf limit (listed.mergeSort Event.noLater))).1 := by
  unfold seed
  dsimp only
  split
  · rename_i hobserve
    rw [hobserve]
  · rename_i hobserve
    rw [hobserve]

@[simp]
theorem scope_replayEvent (s : Subscription) (e : Event) (now : Instant) :
    (s.replayEvent e now).1.scope = s.scope := by
  simp [replayEvent]

/-- A task that looks back leaves no event that is too old. -/
theorem upToDate_perform {s : Subscription} {now : Instant} {task : Task}
    (hlooks : task.looksBack = true)
    (h : (now.sub? s.scope.window.retention.age).isSome = true) :
    (s.perform now task).1.scope.window.UpToDate (some now) := by
  cases task with
  | seed listed limit =>
      rw [perform, scope_seed]
      refine upToDate_observeAll ?_ h
      rw [Ne, Window.lastOf_eq_nil_iff, ← List.length_eq_zero_iff (l := listed.mergeSort _),
        List.length_mergeSort, List.length_eq_zero_iff]
      simpa [Task.looksBack] using hlooks
  | event e =>
      rw [perform, scope_applyEvent]
      exact s.scope.upToDate_observe e h
  | tick =>
      rw [perform, scope_tick]
      exact Window.upToDate_prune h
  | change | replay | deliver => cases hlooks

/-- Any other task leaves the scope alone. -/
theorem scope_perform_of_not_looksBack {s : Subscription} {task : Task}
    (hlooks : task.looksBack = false) (now : Instant) : (s.perform now task).1.scope = s.scope := by
  cases task with
  | seed listed limit =>
      have hnone : Window.lastOf limit (listed.mergeSort Event.noLater) = [] := by
        rw [Window.lastOf_eq_nil_iff, ← List.length_eq_zero_iff (l := listed.mergeSort _),
          List.length_mergeSort, List.length_eq_zero_iff]
        simpa [Task.looksBack, ← Decidable.or_iff_not_imp_left] using hlooks
      rw [perform, scope_seed, hnone]
      rfl
  | change change => exact s.scope_applyChange change now
  | replay e => exact s.scope_replayEvent e now
  | deliver u => rw [perform, deliver_eq]
  | event | tick => cases hlooks

/-- When the window was last pruned. -/
def lastLook (done : List (Instant × Task)) : Option Instant :=
  done.foldl (fun last timed => if timed.2.looksBack then some timed.1 else last) none

@[simp]
theorem lastLook_snoc (done : List (Instant × Task)) (timed : Instant × Task) :
    lastLook (done ++ [timed]) =
      if timed.2.looksBack then some timed.1 else lastLook done := by
  rw [lastLook, List.foldl_append]
  rfl

theorem performAll_snoc (s : Subscription) (done : List (Instant × Task))
    (timed : Instant × Task) :
    s.performAll (done ++ [timed]) = ((s.performAll done).perform timed.1 timed.2).1 := by
  rw [performAll, List.foldl_append]
  rfl

/-- Whatever was done since a subscription started without events, no retained event was too old
when the window was last pruned. -/
theorem upToDate_performAll {s : Subscription} (hstart : s.scope.window.events = [])
    {done : List (Instant × Task)}
    (hdone : ∀ timed ∈ done, timed.2.looksBack = true →
      (timed.1.sub? s.scope.window.retention.age).isSome = true) :
    (s.performAll done).scope.window.UpToDate (lastLook done) := by
  induction done using List.reverseRecOn with
  | nil => exact hstart
  | append_singleton done timed ih =>
      rw [performAll_snoc, lastLook_snoc]
      cases hlooks : timed.2.looksBack with
      | true =>
          refine upToDate_perform hlooks ?_
          rw [retention_performAll]
          exact hdone timed (List.mem_append_right done List.mem_cons_self) hlooks
      | false =>
          rw [scope_perform_of_not_looksBack hlooks, if_neg Bool.false_ne_true]
          exact ih fun earlier hearlier => hdone earlier (List.mem_append_left _ hearlier)

/-! ## What was never seen -/

/-- A task as it would be without some events, if anything is left of it. -/
def Task.unobserving (gone : Event → Bool) : Task → Option Task
  | seed listed limit => some (.seed (listed.filter fun e => !gone e) limit)
  | event e => if gone e then none else some (.event e)
  | replay e => if gone e then none else some (.replay e)
  | task => some task

/-- What would have been done if some events had never been seen. -/
def unobserving (gone : Event → Bool) (done : List (Instant × Task)) : List (Instant × Task) :=
  done.filterMap fun timed => (timed.2.unobserving gone).map fun task => (timed.1, task)

theorem Task.unobserving_of_none {gone : Event → Bool} (h : ∀ e, gone e = false) (task : Task) :
    task.unobserving gone = some task := by
  cases task <;> simp [unobserving, h]

theorem unobserving_of_none {gone : Event → Bool} (h : ∀ e, gone e = false)
    (done : List (Instant × Task)) : unobserving gone done = done := by
  induction done with
  | nil => rfl
  | cons timed rest ih =>
      rw [unobserving, List.filterMap_cons_some (b := timed)]
      · exact congrArg _ ih
      · rw [Task.unobserving_of_none h]
        rfl

/-- The retained events that are too old at a reading, if there is one. -/
def outdated (s : Subscription) (reading : Option Instant) (e : Event) : Bool :=
  s.scope.window.events.contains e &&
    reading.any fun look => s.scope.window.retention.outdates look e

/-- Where the window is up to date, nothing that it retains is too old. -/
theorem outdated_of_upToDate {s : Subscription} {reading : Option Instant}
    (h : s.scope.window.UpToDate reading) (e : Event) : s.outdated reading e = false := by
  cases reading with
  | none => simp [outdated]
  | some look =>
      rw [outdated, Option.any_some, Bool.and_eq_false_iff, or_iff_not_imp_left]
      intro hmem
      exact h e (List.contains_iff_mem.mp (by simpa using hmem))

/-! ## Changes -/

/-- A subscription has started, and whatever was done since could be done.  No event that it retains
was too old when the window was last pruned, so the update of a change is the one it would be if
such events had never been seen.  Evidence that has become too old since then is not left aside:
that would make a difference, unless the snapshot is decided or there is other evidence. -/
theorem outdated_evidence_never_counts (policy : Policy) (request : SubscribeRequest)
    (start : Instant) {done : List (Instant × Task)}
    (hdone : ∀ timed ∈ done, timed.2.looksBack = true →
      (timed.1.sub? policy.config.retention.age).isSome = true)
    {change : Change} (hkind : change.kind ≠ .deleted) (now : Instant) :
    let s := (Manager.newSubscription policy request start).performAll done
    (∀ e ∈ s.scope.window.events, ∃ look, lastLook done = some look ∧
      policy.config.retention.outdates look e = false) ∧
    (s.applyChange change now).2 =
      (((Manager.newSubscription policy request start).performAll
        (unobserving (s.outdated (lastLook done)) done)).applyChange change now).2 ∧
    ((s.applyChange change now).2 = Update.ofSnapshot change.deployment.snapshot
        (s.scope.covered.filter fun e => !s.outdated (some now) e) now ↔
      change.deployment.snapshot.isDecided = true ∨ (s.scope.showsInstalling = true →
        ∃ e ∈ s.scope.covered, s.outdated (some now) e = false ∧ e.isInstalling = true)) := by
  intro s
  have hdate : s.scope.window.UpToDate (lastLook done) := upToDate_performAll rfl hdone
  have hretention : s.scope.window.retention = policy.config.retention :=
    retention_performAll (Manager.newSubscription policy request start) done
  refine ⟨?_, ?_, ?_⟩
  · intro e he
    cases hlook : lastLook done with
    | none =>
        rw [hlook] at hdate
        exact absurd (hdate ▸ he) List.not_mem_nil
    | some look =>
        rw [hlook] at hdate
        exact ⟨look, rfl, hretention ▸ hdate e he⟩
  · rw [unobserving_of_none (outdated_of_upToDate hdate)]
  · rw [update_applyChange s hkind now, Update.ofSnapshot_filter_eq_iff]
    simp only [Bool.not_eq_true', Scope.showsInstalling]

/-- Two minutes are retained.  An event of half a minute ago has pruned one of three minutes ago,
and counts alone. -/
theorem outdated_evidence_never_counts_of_pruned :
    let evidence (name : String) (t : Instant) : Event :=
      ⟨⟨"ServiceSet", name, some "ns"⟩, "ServiceInstalling", "", "Normal", some t, none, none⟩
    let late : Instant := ⟨150, 0, by decide, by decide, by decide⟩
    let now : Instant := ⟨180, 0, by decide, by decide, by decide⟩
    let done : List (Instant × Task) :=
      [(default, .event (evidence "a-x" default)), (late, .event (evidence "a-y" late))]
    let started := Manager.newSubscription ⟨.standard, Rule.standard, .all⟩
      ⟨"ann", ⟨"ns", "a"⟩, none⟩ default
    let s := started.performAll done
    let change : Change := ⟨⟨.blank, .blank, none⟩, .modified⟩
    s.scope.window.events = [evidence "a-y" late] ∧
      (s.applyChange change now).2.phase = .installing ∧
      (s.applyChange change now).2 =
        ((started.performAll (unobserving (s.outdated (some late)) done)).applyChange change
          now).2 := by
  intro evidence late now done started s change
  have hretained : s.scope.window.events = [evidence "a-y" late] := by
    decide +kernel
  have hphase : (s.applyChange change now).2.phase = .installing := by
    decide +kernel
  have hdone : ∀ timed ∈ done, timed.2.looksBack = true →
      (timed.1.sub? Config.standard.retention.age).isSome = true := by
    decide +kernel
  obtain ⟨-, hsame, -⟩ := outdated_evidence_never_counts ⟨.standard, Rule.standard, .all⟩
    ⟨"ann", ⟨"ns", "a"⟩, none⟩ default hdone (show change.kind ≠ .deleted by decide) now
  exact ⟨hretained, hphase, hsame⟩

/-- Evidence of three minutes ago counts for a change, as nothing has pruned it since. -/
theorem outdated_evidence_counts_until_pruned :
    let now : Instant := ⟨180, 0, by decide, by decide, by decide⟩
    let done : List (Instant × Task) :=
      [ (default, .event ⟨⟨"ServiceSet", "a-x", some "ns"⟩, "ServiceInstalling", "", "Normal",
          some default, none, none⟩) ]
    let started := Manager.newSubscription ⟨.standard, Rule.standard, .all⟩
      ⟨"ann", ⟨"ns", "a"⟩, none⟩ default
    let s := started.performAll done
    let change : Change := ⟨⟨.blank, .blank, none⟩, .modified⟩
    (s.applyChange change now).2 ≠
      ((started.performAll (unobserving (s.outdated (some now)) done)).applyChange change
        now).2 := by
  decide +kernel

end Subscription
end ProvisionWatch

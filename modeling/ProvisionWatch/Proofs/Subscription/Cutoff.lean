import ProvisionWatch.Proofs.Session.Reactions
import ProvisionWatch.Manager.Step

/-!
# When the cutoff can be told

A deadline beyond the last instant is the last instant, and a warning that would
be due before the first one is due at once.  The cutoff of the retained events
is not bounded in this way: where the retention age reaches below the first
instant there is none, and whoever has to prune fails.

Main results:

- Theorem `sub?_isSome_iff`: an earlier instant can be told exactly when it is
  not before the first one.
- Theorem `perform_ok_iff`: whatever was done before, a task is done exactly when
  it does not look back, or the cutoff can be told.
- Theorem `perform_fails_of_longest_retention`: with a retention as long as can
  be set, not even a tick is done.
-/

namespace ProvisionWatch

/-! ## Instants on one line -/

namespace Instant

/-- The nanoseconds from the start of 1970, with the leap second between those of its neighbours. -/
def nanos (t : Instant) : Int :=
  t.second * 1000000000 + t.nano

theorem of?_isSome_iff (second : Int) (nano : Nat) :
    (of? second nano).isSome = true ↔
      nano < 2000000000 ∧ firstSecond ≤ second ∧ second ≤ lastSecond := by
  unfold of?
  split <;> simp_all

/-- From outside of a leap second one gets to any second that there is. -/
theorem carry_isSome_iff {second nano : Int} (hlow : -1000000000 < nano)
    (hhigh : nano < 1000000000) (hlast : second ≤ lastSecond) :
    (carry second nano).isSome = true ↔
      firstSecond * 1000000000 ≤ second * 1000000000 + nano := by
  unfold carry
  split
  · rw [of?_isSome_iff]
    omega
  · rw [if_neg (by omega), of?_isSome_iff]
    omega

/-- An earlier instant can be told exactly when it is not before the first one. -/
theorem sub?_isSome_iff (t : Instant) {s : Span} (hs : 0 ≤ s.nanos) :
    (t.sub? s).isSome = true ↔ earliest.nanos + s.nanos ≤ t.nanos := by
  obtain ⟨n, hn⟩ := Int.eq_ofNat_of_zero_le hs
  have hseconds : s.opposite.wholeSeconds = -((n / 1000000000 : Nat) : Int) := by
    simp [Span.wholeSeconds, Span.opposite, hn, Int.neg_tdiv]
  have hnanos : s.opposite.nanosBesideSeconds = -((n % 1000000000 : Nat) : Int) := by
    simp [Span.nanosBesideSeconds, Span.opposite, hn, Int.neg_tmod,
      Int.tmod_eq_emod_of_nonneg (Int.natCast_nonneg n)]
  have hsplit : n = n / 1000000000 * 1000000000 + n % 1000000000 := by omega
  have hbound : n % 1000000000 < 1000000000 := Nat.mod_lt _ (by omega)
  have hfirst := t.first_le
  have hlast := t.le_last
  have hnano := t.nano_lt
  rw [show earliest.nanos = firstSecond * 1000000000 from rfl,
    show t.nanos = t.second * 1000000000 + t.nano from rfl, hn]
  unfold sub? add?
  simp only [hseconds, hnanos]
  generalize n / 1000000000 = q at *
  generalize n % 1000000000 = r at *
  cases hleap : t.inLeapSecond with
  | false =>
      have hplain : t.nano < 1000000000 := by simpa [inLeapSecond] using hleap
      simp only [Bool.false_eq_true, if_false]
      rw [carry_isSome_iff (by omega) (by omega) (by omega)]
      omega
  | true =>
      have hlate : 1000000000 ≤ t.nano := by simpa [inLeapSecond] using hleap
      simp only [if_true]
      rw [if_neg (by omega)]
      by_cases hq : 0 < q
      · rw [if_pos (by omega), carry_isSome_iff (by omega) (by omega) (by omega)]
        omega
      · rw [if_neg (by omega), of?_isSome_iff]
        omega

end Instant

theorem Duration.toSpan_nonneg (d : Duration) : 0 ≤ d.toSpan.nanos := by
  unfold toSpan
  split
  · exact Int.natCast_nonneg d.nanos
  · decide

/-! ## Retaining and pruning -/

/-- Pruning works exactly when the cutoff can be told. -/
@[simp]
theorem Window.prune_ok_iff (w : Window) (now : Instant) :
    (w.prune now).2 = .ok () ↔ (now.sub? w.retention.age).isSome = true := by
  constructor
  · intro h
    unfold prune at h
    split at h
    · rename_i cutoff hcutoff
      rw [hcutoff]
      rfl
    · cases h
  · exact prune_ok

/-- An event is retained exactly when the cutoff can be told. -/
theorem Scope.observe_ok_iff (s : Scope) (e : Event) (now : Instant) :
    (s.observe e now).2 = .ok () ↔ (now.sub? s.window.retention.age).isSome = true :=
  Window.prune_ok_iff { s.window with events := s.window.events ++ [e] } now

@[simp]
theorem Window.lastOf_eq_nil_iff {α : Type} (n : Nat) (es : List α) :
    lastOf n es = [] ↔ n = 0 ∨ es = [] := by
  rw [lastOf, List.drop_eq_nil_iff, ← List.length_eq_zero_iff]
  omega

namespace Subscription

/-- Several events are retained exactly when the cutoff can be told, or there are none. -/
theorem observeAll_ok_iff (scope : Scope) (now : Instant) (es : List Event) :
    (observeAll scope now es).2 = .ok () ↔
      es = [] ∨ (now.sub? scope.window.retention.age).isSome = true := by
  cases es with
  | nil => simp [observeAll]
  | cons e rest =>
      simp only [reduceCtorEq, false_or]
      refine ⟨fun h => ?_, fun h => observeAll_ok h _⟩
      rw [← scope.observe_ok_iff e now]
      unfold observeAll at h
      split at h
      · rename_i next hobserve
        rw [hobserve]
      · cases h

/-- Listed events are taken in exactly when the cutoff can be told, or none of them is kept. -/
theorem seed_ok_iff (s : Subscription) (listed : List Event) (limit : Nat) (now : Instant) :
    (s.seed listed limit now).2.map (fun _ => ()) = .ok () ↔
      limit = 0 ∨ listed = [] ∨ (now.sub? s.scope.window.retention.age).isSome = true := by
  have hnone : Window.lastOf limit (listed.mergeSort Event.noLater) = [] ↔
      limit = 0 ∨ listed = [] := by
    rw [Window.lastOf_eq_nil_iff, ← List.length_eq_zero_iff, List.length_mergeSort,
      List.length_eq_zero_iff]
  rw [← or_assoc, ← hnone, ← observeAll_ok_iff, seed]
  split
  · rename_i hobserve
    rw [hobserve]
    simp [Except.map]
  · rename_i hobserve
    rw [hobserve]
    simp [Except.map]

/-- An event is taken in exactly when it is retained. -/
theorem applyEvent_ok_iff (s : Subscription) (e : Event) (now : Instant) :
    (s.applyEvent e now).2.map (fun _ => ()) = .ok () ↔
      (now.sub? s.scope.window.retention.age).isSome = true := by
  rw [← s.scope.observe_ok_iff e now, applyEvent]
  split
  · rename_i hobserve
    simp [hobserve, Except.map]
  · rename_i hobserve
    simp [hobserve, Except.map]

/-- A tick is done exactly when it can prune. -/
theorem tick_ok_iff (s : Subscription) (now : Instant) :
    (s.tick now).2.map (fun _ => ()) = .ok () ↔
      (now.sub? s.scope.window.retention.age).isSome = true := by
  rw [← Window.prune_ok_iff, show (s.scope.window.prune now).2 = (s.scope.prune now).2 from rfl,
    tick]
  split
  · rename_i hprune
    simp [hprune, Except.map]
  · rename_i hprune
    simp [hprune, Except.map]

/-! ## What stays -/

/-- A snapshot, a phase and what was said leave the scope. -/
@[simp]
theorem scope_applyEvent (s : Subscription) (e : Event) (now : Instant) :
    (s.applyEvent e now).1.scope = (s.scope.observe e now).1 := by
  unfold applyEvent
  split
  · rename_i hobserve
    rw [hobserve]
    cases s.evaluateEvent e now <;> rfl
  · rename_i hobserve
    rw [hobserve]

@[simp]
theorem scope_tick (s : Subscription) (now : Instant) :
    (s.tick now).1.scope = (s.scope.prune now).1 := by
  unfold tick
  split
  · rename_i hprune
    rw [hprune]
  · rename_i hprune
    rw [hprune]
    unfold checkDeadline
    dsimp only
    split
    · rfl
    · split <;> rfl

/-! ## Tasks -/

/-- What can be asked of a subscription that has started. -/
inductive Task where
  | seed (listed : List Event) (limit : Nat)
  | change (change : Change)
  | event (event : Event)
  | replay (event : Event)
  | tick
  | deliver (update : Update)

/-- A task retains or prunes events. -/
def Task.looksBack : Task → Bool
  | seed listed limit => limit != 0 && !listed.isEmpty
  | event _ | tick => true
  | change _ | replay _ | deliver _ => false

/-- Do a task at a reading of the clock; the answer tells whether it could be done. -/
def perform (s : Subscription) (now : Instant) : Task → Subscription × Except RangeFault Unit
  | .seed listed limit => ((s.seed listed limit now).1, (s.seed listed limit now).2.map fun _ => ())
  | .change change => ((s.applyChange change now).1, .ok ())
  | .event e => ((s.applyEvent e now).1, (s.applyEvent e now).2.map fun _ => ())
  | .replay e => ((s.replayEvent e now).1, .ok ())
  | .tick => ((s.tick now).1, (s.tick now).2.map fun _ => ())
  | .deliver u => ((s.deliver u).1, .ok ())

/-- Do tasks in order, each at its own reading of the clock. -/
def performAll (s : Subscription) (done : List (Instant × Task)) : Subscription :=
  done.foldl (fun s timed => (s.perform timed.1 timed.2).1) s

/-- A task changes only which events are retained. -/
@[simp]
theorem cleared_perform (s : Subscription) (now : Instant) (task : Task) :
    (s.perform now task).1.scope.cleared = s.scope.cleared := by
  cases task with
  | seed listed limit =>
      rcases hseed : s.seed listed limit now with ⟨seeded, result⟩
      obtain ⟨scope, hcleared, rfl⟩ := seed_eq hseed
      rw [perform, hseed]
      exact hcleared
  | change change =>
      cases hkind : change.kind <;> simp [perform, applyChange, hkind]
  | event e =>
      rw [perform, scope_applyEvent]
      exact s.scope.cleared_observe e now
  | replay e =>
      simp [perform, replayEvent]
  | tick =>
      rw [perform, scope_tick]
      exact s.scope.cleared_prune now
  | deliver u => rw [perform, deliver_eq]

@[simp]
theorem cleared_performAll (s : Subscription) (done : List (Instant × Task)) :
    (s.performAll done).scope.cleared = s.scope.cleared := by
  induction done generalizing s with
  | nil => rfl
  | cons timed rest ih =>
      obtain ⟨now, task⟩ := timed
      exact (ih (s.perform now task).1).trans (s.cleared_perform now task)

/-- The retention stays as it is. -/
@[simp]
theorem retention_performAll (s : Subscription) (done : List (Instant × Task)) :
    (s.performAll done).scope.window.retention = s.scope.window.retention :=
  Scope.retention_of_cleared (s.cleared_performAll done)

/-- A task is done exactly when it does not look back, or the cutoff can be told. -/
theorem perform_ok_iff_cutoff (s : Subscription) (now : Instant) (task : Task) :
    (s.perform now task).2 = .ok () ↔
      (task.looksBack = true → (now.sub? s.scope.window.retention.age).isSome = true) := by
  cases task with
  | seed listed limit =>
      rw [perform, seed_ok_iff]
      by_cases hlimit : limit = 0
      · simp [Task.looksBack, hlimit]
      · by_cases hlisted : listed = []
        · simp [Task.looksBack, hlisted]
        · simp [Task.looksBack, hlimit, hlisted]
  | event e => simp only [perform, applyEvent_ok_iff, Task.looksBack, forall_const]
  | tick => simp only [perform, tick_ok_iff, Task.looksBack, forall_const]
  | change | replay | deliver => simp [perform, Task.looksBack]

/-- With whatever settings a subscription has started, and whatever was done since at whatever
readings of the clock: a task is done exactly when it does not retain or prune events, or the
retention age does not reach below the first instant. -/
theorem perform_ok_iff (settings : Settings) (rules : List Rule) (allowList : AllowList)
    (request : SubscribeRequest) (start : Instant) (done : List (Instant × Task)) (now : Instant)
    (task : Task) :
    (((Manager.newSubscription ⟨.ofSettings settings, rules, allowList⟩ request start).performAll
        done).perform now task).2 = .ok () ↔
      (task.looksBack = true →
        Instant.earliest.nanos + (Config.ofSettings settings).retention.age.nanos ≤ now.nanos) := by
  rw [perform_ok_iff_cutoff, retention_performAll, ← Instant.sub?_isSome_iff]
  · rfl
  · exact Duration.toSpan_nonneg _

/-- With the longest retention age that can be set, the first tick of a subscription fails. -/
theorem perform_fails_of_longest_retention :
    (((Manager.newSubscription
        ⟨.ofSettings fun name =>
            if name = "EVENT_RETENTION_SECS" then some "18446744073709551615" else none,
          Rule.standard, .all⟩
        ⟨"ann", ⟨"ns", "a"⟩, none⟩ default).performAll []).perform default .tick).2 ≠ .ok () := by
  rw [Ne, perform_ok_iff_cutoff]
  intro hcutoff
  have htold := hcutoff rfl
  revert htold
  decide +kernel

end Subscription
end ProvisionWatch

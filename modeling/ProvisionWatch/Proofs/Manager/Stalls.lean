import ProvisionWatch.Proofs.Manager.Performing
import ProvisionWatch.Proofs.Session.Stalls
import ProvisionWatch.Proofs.Session.Unstalled

/-!
# What the threshold of stalls decides

The threshold is there for diagnosis.  Whatever it is, a subscription hands over the
same updates, ends for the same reason, and its ticks come out the same.  All that
depends on it is when the counter of stalls grows.

Main results:

- Theorem `stalls_only_diagnose`: the threshold decides when the counter grows and
  nothing else; it grows once for conditions that stand, at the first tick the
  threshold later that can prune the window.
-/

namespace ProvisionWatch

/-- The policy with another threshold of stalls. -/
def Policy.withStallThreshold (policy : Policy) (threshold : Duration) : Policy :=
  { policy with config := { policy.config with stallThreshold := threshold } }

/-- The conditions that were brought at one instant stand for the threshold at another. -/
def Policy.StalledSince (policy : Policy) (since now : Instant) : Prop :=
  (policy.config.stallThreshold.nanos : Int) ≤ (now.since since).nanos

instance (policy : Policy) (since now : Instant) : Decidable (policy.StalledSince since now) :=
  inferInstanceAs (Decidable (_ ≤ _))

/-- A tick has a stall to count if it comes the threshold after the change, and none before it
did. -/
theorem Policy.strikes_iff (policy : Policy) (since now : Instant)
    (later : List (Instant × Signal)) :
    let threshold := policy.config.stallThreshold.toSpan
    (⟨threshold, since, (⟨threshold, since, false⟩ : StallClock).dueAmong later⟩ :
        StallClock).strikes now = true ↔
      policy.StalledSince since now ∧
        ∀ timed ∈ later, timed.2.isTick → ¬policy.StalledSince since timed.1 := by
  intro threshold
  have hdue : ∀ reported t, (⟨threshold, since, reported⟩ : StallClock).due t = true ↔
      policy.StalledSince since t :=
    fun _ t => decide_eq_true_iff.trans (Duration.toSpan_le_since_iff _ t since)
  rw [StallClock.strikes, Bool.and_eq_true, hdue, Bool.not_eq_true', StallClock.dueAmong,
    List.any_eq_false, and_comm]
  simp only [Bool.and_eq_true, hdue, not_and]

/-- What a run hands over, how it ended if it did, and what a tick after it would come to. -/
def Opening.seen (o : Opening) (signals : List (Instant × Signal)) (now : Instant) :
    List Update × Option Ending × Except RangeFault TickOutcome :=
  ((o.run signals).updates, (o.run signals).ending,
    ((o.run signals).session.subscription.tick now).2.map Ticked.outcome)

/-- Openings that differ in stalls only look the same. -/
theorem Opening.seen_congr {o o' : Opening} (h : o.unstalled = o'.unstalled)
    (signals : List (Instant × Signal)) (now : Instant) :
    o.seen signals now = o'.seen signals now := by
  obtain ⟨hsession, heffects, hending⟩ := Reaction.unstalled_eq_iff.mp (run_congr h signals)
  have hupdates : (o.run signals).updates = (o'.run signals).updates := by
    rw [Reaction.updates, Reaction.updates, ← offeredUpdates_withoutStalls, heffects,
      offeredUpdates_withoutStalls]
  have hsubscription : (o.run signals).session.subscription.unstalled =
      (o'.run signals).session.subscription.unstalled :=
    congrArg Session.subscription hsession
  unfold seen
  rw [hupdates, hending, ← Subscription.outcome_tick_unstalled, hsubscription,
    Subscription.outcome_tick_unstalled]

namespace Manager

variable {σ : Type}

/-- The counter grows by the stalls among some effects. -/
@[simp]
theorem stalls_recordAll_performAll (sinks : SinkInterface σ) (sink : Nat) (target : Target)
    (world : σ) (effects : List Effect) (counts : Metrics) :
    (counts.recordAll (performAll sinks sink target world effects).2).stalls =
      counts.stalls + effects.countP Effect.isStall := by
  rw [Metrics.recordAll_countP Metrics.stalls _ fun counts o => (counts.record_adds o).stalls]
  refine congrArg _ (performAll_countP (fun world e => ?_) world effects)
  unfold perform
  split
  · split <;> rfl
  · rfl
  · rfl
  · rfl

/-- Subscriptions that only have other thresholds open alike. -/
theorem openSession?_withStallThreshold (policy : Policy) (threshold : Duration)
    (request : SubscribeRequest) (d : Deployment) (listed : List Event) (hearsEvents : Bool)
    (now : Instant) :
    (openSession? (policy.withStallThreshold threshold) request d listed hearsEvents now).map
        Opening.unstalled =
      (openSession? policy request d listed hearsEvents now).map Opening.unstalled := by
  have hopens := Subscription.openWith_congr
    (s := newSubscription (policy.withStallThreshold threshold) request now)
    (t := newSubscription policy request now) rfl d listed policy.config.eventSnapshotLimit
    hearsEvents now
  have hoption : ∀ result : Except RangeFault Opening,
      result.toOption.map Opening.unstalled = (result.map Opening.unstalled).toOption := by
    intro result
    cases result <;> rfl
  unfold openSession?
  rw [show (policy.withStallThreshold threshold).config.retention = policy.config.retention
    from rfl]
  split
  · rw [hoption, hoption]
    exact congrArg Except.toOption hopens
  · rfl

/-- Whatever the threshold of stalls is: a subscription with the same deployment, listed events and
signals at the same readings hands over the same updates, ends for the same reason, and each tick
comes to the same.  Between two changes of the conditions the counter of stalls grows once at most:
at the first tick that comes the threshold after the change, provided that it can prune the
window. -/
theorem stalls_only_diagnose (policy : Policy) (sinks : SinkInterface σ) (sink : Nat) (world : σ)
    (counts : Metrics) (request : SubscribeRequest) (d : Deployment) (listed : List Event)
    (hearsEvents : Bool) (start : Instant) :
    (∀ (threshold : Duration) (signals : List (Instant × Signal)) (now : Instant),
      (openSession? (policy.withStallThreshold threshold) request d listed hearsEvents start).map
          (fun o => o.seen signals now) =
        (openSession? policy request d listed hearsEvents start).map
          fun o => o.seen signals now) ∧
    ∀ o, openSession? policy request d listed hearsEvents start = some o →
      let counted (signals : List (Instant × Signal)) : Nat :=
        (counts.recordAll
          (performAll sinks sink request.target world (o.run signals).effects).2).stalls
      ∀ earlier since later, ChangedAt d start earlier since →
        Steady (latestSnapshot d.snapshot earlier) later →
          counted (earlier ++ later) ≤ counted earlier + 1 ∧
          ((o.run (earlier ++ later)).ending = none → ∀ now signal,
            counted (earlier ++ later ++ [(now, signal)]) =
              counted (earlier ++ later) +
                if signal.isTick ∧ (now.sub? policy.config.retention.age).isSome ∧
                    policy.StalledSince since now ∧
                    ∀ timed ∈ later, timed.2.isTick → ¬policy.StalledSince since timed.1 then 1
                else 0) := by
  refine ⟨fun threshold signals now => ?_, ?_⟩
  · have hopens :=
      openSession?_withStallThreshold policy threshold request d listed hearsEvents start
    cases hother : openSession? (policy.withStallThreshold threshold) request d listed hearsEvents
      start with
    | none =>
        rw [hother] at hopens
        rw [Option.map_eq_none_iff.mp hopens.symm]
    | some o =>
        rw [hother] at hopens
        obtain ⟨o', hthis, hsame⟩ := Option.map_eq_some_iff.mp hopens.symm
        rw [hthis, Option.map_some, Option.map_some, Opening.seen_congr hsame]
  · intro o hopens counted earlier since later hchanged hsteady
    have htimed := Subscription.openWith_timed rfl (openSession?_eq_some_iff.mp hopens).2
    have hcounted : ∀ signals, counted signals = counts.stalls + (o.run signals).stalls :=
      fun signals => stalls_recordAll_performAll sinks sink request.target world _ counts
    refine ⟨?_, fun hgoing now signal => ?_⟩
    · rw [hcounted, hcounted, Nat.add_assoc]
      exact Nat.add_le_add_left (Opening.stalls_le_of_steady htimed hchanged hsteady) _
    · rw [hcounted, hcounted, Nat.add_assoc]
      rw [Opening.stalls_of_steady htimed hchanged hsteady hgoing now signal]
      refine congrArg _ (congrArg _ ?_)
      refine (Bool.cond_eq_ite _ _ _).trans (if_congr ?_ rfl rfl)
      rw [Bool.and_eq_true, Bool.and_eq_true, and_assoc]
      exact and_congr_right' (and_congr_right' (policy.strikes_iff since now later))

/-- With the default threshold of ten minutes: five minutes after the opening a change brings a
condition, a tick five minutes later counts nothing, and a tick ten minutes later counts a
stall. -/
theorem stalls_only_diagnose_of_late_tick :
    let changed : Instant := ⟨300, 0, by decide, by decide, by decide⟩
    let early : Instant := ⟨600, 0, by decide, by decide, by decide⟩
    let late : Instant := ⟨900, 0, by decide, by decide, by decide⟩
    let brings : Signal := .input (.resource (.change
      ⟨⟨.blank, .blank, some ⟨none, [⟨"Ready", "False", none, none, none⟩], [], none⟩⟩, .modified⟩))
    let earlier := [(changed, brings)]
    let later := [(early, Signal.input .tick)]
    let stalls (o : Opening) (signals : List (Instant × Signal)) : Nat :=
      (Metrics.zero.recordAll
        (performAll SinkInterface.accepting 0 ⟨"ns", "a"⟩ () (o.run signals).effects).2).stalls
    ∃ o, openSession? .standard ⟨"ann", ⟨"ns", "a"⟩, none⟩ .blank [] true default = some o ∧
      ChangedAt .blank default earlier changed ∧
      Steady (latestSnapshot Deployment.blank.snapshot earlier) later ∧
      (o.run (earlier ++ later)).ending = none ∧
      stalls o (earlier ++ later) = 0 ∧
      stalls o (earlier ++ later ++ [(late, .input .tick)]) = 1 := by
  intro changed early late brings earlier later stalls
  have hopens : (openSession? .standard ⟨"ann", ⟨"ns", "a"⟩, none⟩ .blank [] true default).map
      (fun o => ((o.run (earlier ++ later)).ending, stalls o (earlier ++ later))) =
        some (none, 0) := by
    decide +kernel
  obtain ⟨o, ho, hread⟩ := Option.map_eq_some_iff.mp hopens
  obtain ⟨hgoing, hnone⟩ := Prod.mk.inj hread
  have hchanged : ChangedAt .blank default earlier changed := by
    refine .changed [] changed (show brings.snapshot? = some _ from rfl) ?_
    decide
  have hsteady : Steady (latestSnapshot Deployment.blank.snapshot earlier) later := by
    intro timed htimed snapshot hbrings
    obtain rfl := List.mem_singleton.mp htimed
    cases hbrings
  refine ⟨o, ho, hchanged, hsteady, hgoing, hnone, ?_⟩
  have hcounts := ((stalls_only_diagnose .standard .accepting 0 () .zero
    ⟨"ann", ⟨"ns", "a"⟩, none⟩ .blank [] true default).2 o ho earlier changed later hchanged
      hsteady).2 hgoing late (.input .tick)
  rw [if_pos (by decide +kernel)] at hcounts
  exact hcounts.trans (congrArg (· + 1) hnone)

/-- With the longest retention age that can be set the first tick the threshold after the opening
counts no stall: it cannot prune the window, and the session breaks down. -/
theorem stall_uncounted_of_longest_retention :
    let policy : Policy :=
      ⟨.ofSettings fun name =>
          if name = "EVENT_RETENTION_SECS" then some "18446744073709551615" else none,
        Rule.standard, .all⟩
    let now : Instant := ⟨600, 0, by decide, by decide, by decide⟩
    policy.StalledSince default now ∧
      (openSession? policy ⟨"ann", ⟨"ns", "a"⟩, none⟩ .blank [] true default).map
          (fun o => ((o.run [(now, .input .tick)]).stalls, (o.run [(now, .input .tick)]).ending)) =
        some (0, some .aborted) := by
  decide +kernel

end Manager
end ProvisionWatch

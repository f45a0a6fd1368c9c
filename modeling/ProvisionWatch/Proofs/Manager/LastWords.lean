import ProvisionWatch.Proofs.Manager.Streams
import ProvisionWatch.Proofs.Session.EventSide

/-!
# The last word of a stream

However the inputs of a manager are ordered, each of its streams has at most one
terminal update, and nothing follows it.  An ending that is announced has
exactly one; a cancellation has none.  Events have no say in any of this.

Main results:

- Theorem `streams_end_once`: every stream of a run ends once.
- Theorem `updates_marked`: every update that is handed over is marked as
  terminal exactly if it is a verdict or a farewell.
- Theorem `events_decide_nothing`: runs that differ in their events alone end at
  the same signal, for the same reason and with the same last word.
-/

namespace ProvisionWatch

/-- There is at most one terminal update, and it is the last. -/
structure TerminalLast (updates : List Update) : Prop where
  at_most_one : updates.countP Update.terminal ≤ 1
  last : ∀ u ∈ updates.dropLast, u.terminal = false

/-- A stream that is closed was announced by exactly one terminal update, or it was cancelled
without one. -/
structure EndsOnce (updates : List Update) (ending : Ending) : Prop extends
    TerminalLast updates where
  announced : ending ∈ [.terminal, .timeout, .watchClosed, .watchFailed] →
    updates.countP Update.terminal = 1
  cancelled : ending = .cancelled → updates.countP Update.terminal = 0
  sound : ending ≠ .aborted

namespace WellEnded

variable {updates : List Update}

theorem terminalLast {ending : Option Ending} (h : WellEnded updates ending) :
    TerminalLast updates := by
  refine ⟨?_, fun u hu => h.going_of_mem_dropLast hu⟩
  rw [h.countP_terminal]
  split <;> omega

theorem endsOnce {ending : Ending} (h : WellEnded updates (some ending))
    (hsound : ending ≠ .aborted) : EndsOnce updates ending := by
  have hcount := h.countP_terminal
  rw [Option.any_some] at hcount
  refine ⟨h.terminalLast, ?_, ?_, hsound⟩
  · intro hannounced
    rw [hcount]
    cases ending with
    | terminal | timeout | watchClosed | watchFailed => rfl
    | cancelled | aborted => simp at hannounced
  · rintro rfl
    exact hcount

end WellEnded

namespace Opens

variable {policy : Policy} {target : Target} {opening : Opening}

theorem isSound (h : Opens policy target opening) : opening.IsSound := by
  obtain ⟨request, d, listed, hearsEvents, now, -, hopens⟩ := h
  exact Subscription.openWith_isSound (Manager.openSession?_eq_some_iff.mp hopens).2

theorem retention (h : Opens policy target opening) :
    opening.session.retention = policy.config.retention := by
  obtain ⟨request, d, listed, hearsEvents, now, -, hopens⟩ := h
  exact Subscription.openWith_retention (Manager.openSession?_eq_some_iff.mp hopens).2

end Opens

/-- A life is well ended, unless there is no time between ticks. -/
theorem Life.wellEnded {policy : Policy} {readable : Instant → Prop} {target : Target}
    {stream : List Update × Ending} (h : Life policy readable target stream) :
    WellEnded stream.1 (some stream.2) := by
  cases h with
  | @ended opening signals ending opens readings ends =>
      have hended := (Opening.run_wellEnded opens.isSound signals).1
      rw [ends] at hended
      exact hended
  | @brokeDown opening signals opens readings going tick =>
      have hended := (Opening.run_wellEnded opens.isSound signals).1
      rw [going] at hended
      exact hended.of_silent rfl

/-- The kind of readings from which every cutoff can be told. -/
def Policy.Tells (policy : Policy) (now : Instant) : Prop :=
  (now.sub? policy.config.retention.age).isSome = true

/-- No life ends in a breakdown where ticks take time and every cutoff can be told. -/
theorem Life.ne_aborted {policy : Policy} {target : Target} {stream : List Update × Ending}
    (h : Life policy policy.Tells target stream)
    (htick : policy.config.tickInterval.isZero = false) : stream.2 ≠ .aborted := by
  cases h with
  | @ended opening signals ending opens readings ends =>
      have hsound : (opening.run signals).ending ≠ some .aborted := by
        refine Opening.run_ne_aborted fun timed hmem => ?_
        rw [opens.retention]
        exact readings timed hmem
      rintro rfl
      exact hsound ends
  | brokeDown opens readings going tick =>
      rw [htick] at tick
      cases tick

/-- A tick and then the loss of the watch, with events in between or without any. -/
def tickThenLost : Bool → List (Instant × Signal)
  | true =>
      [ (default, .input (.event (.event ⟨⟨"Machine", "a", none⟩, "InfrastructureProvisioning", "",
          "Normal", none, none, none⟩))),
        (default, .input .tick), (default, .input (.event .ended)),
        (default, .input (.resource .ended)) ]
  | false => [(default, .input .tick), (default, .input (.resource .ended))]

namespace Manager

variable {σ : Type} {policy : Policy} {sinks : SinkInterface σ}

/-- Whatever a manager is asked, whatever its collaborators and sinks answer, and in whatever order
inputs, cancellations and turns of the clock come: each closed stream of each target ends once, and
each open one has at most one terminal update, its last. -/
theorem streams_end_once {perCallerLimit globalLimit : Nat} {now : Instant} {world : σ}
    {bound : Option Nat} {labels : List Label} {m : Manager σ} {occurred : List Occurrence}
    (htick : policy.config.tickInterval.isZero = false)
    (hnow : (now.sub? policy.config.retention.age).isSome = true)
    (hclock : ∀ t, Label.setClock t ∈ labels →
      (t.sub? policy.config.retention.age).isSome = true)
    (hrun : (Manager.start now world bound (Quota.new perCallerLimit globalLimit)).run policy sinks
      labels = some (m, occurred)) (target : Target) :
    (∀ stream ∈ (streamsOf target occurred).closed, EndsOnce stream.1 stream.2) ∧
      TerminalLast (streamsOf target occurred).current := by
  have hchronicled : Chronicled policy policy.Tells m occurred := run_chronicled hnow hclock hrun
  refine ⟨?_, ?_⟩
  · intro stream hstream
    have hlife := hchronicled.closed target stream hstream
    exact hlife.wellEnded.endsOnce (hlife.ne_aborted htick)
  · by_cases hworker : ∃ w ∈ m.workers, w.target = target
    · obtain ⟨w, hw, rfl⟩ := hworker
      obtain ⟨opening, signals, hlived⟩ := hchronicled.current w hw
      rw [← hlived.said]
      exact (Opening.run_wellEnded hlived.opens.isSound signals).1.terminalLast
    · have hnone : (streamsOf target occurred).current = [] :=
        hchronicled.idle target fun w hw htarget => hworker ⟨w, hw, htarget⟩
      rw [hnone]
      exact ⟨Nat.zero_le 1, fun u hu => absurd hu List.not_mem_nil⟩

/-- Of two subscriptions to one target the first loses its watch after a change that says nothing
new; the second is cancelled while the end of its watch waits. -/
theorem streams_end_once_lost_then_cancelled :
    ∃ m occurred,
      (Manager.start default () (some 0) (Quota.new 10 100)).run Policy.standard .accepting
        (Label.setup 1 ⟨"ann", ⟨"ns", "a"⟩, none⟩ .blank [] ++
          [ .arrive ⟨"ns", "a"⟩ (.resource (.change ⟨.blank, .modified⟩)),
            .arrive ⟨"ns", "a"⟩ (.resource .ended), .work ⟨"ns", "a"⟩, .work ⟨"ns", "a"⟩ ] ++
          Label.setup 2 ⟨"ann", ⟨"ns", "a"⟩, none⟩ .blank [] ++
          [ .arrive ⟨"ns", "a"⟩ (.resource .ended), .unsubscribe 3 ⟨"ns", "a"⟩,
            .work ⟨"ns", "a"⟩ ]) = some (m, occurred) ∧
      (streamsOf ⟨"ns", "a"⟩ occurred).closed.map
          (fun stream => (stream.1.map fun u => (u.reason, u.terminal), stream.2)) =
        [([("Initializing", false), ("WatchClosed", true)], .watchClosed),
          ([("Initializing", false)], .cancelled)] ∧
      ∀ stream ∈ (streamsOf ⟨"ns", "a"⟩ occurred).closed, EndsOnce stream.1 stream.2 := by
  let labels : List Label :=
    Label.setup 1 ⟨"ann", ⟨"ns", "a"⟩, none⟩ .blank [] ++
      [ .arrive ⟨"ns", "a"⟩ (.resource (.change ⟨.blank, .modified⟩)),
        .arrive ⟨"ns", "a"⟩ (.resource .ended), .work ⟨"ns", "a"⟩, .work ⟨"ns", "a"⟩ ] ++
      Label.setup 2 ⟨"ann", ⟨"ns", "a"⟩, none⟩ .blank [] ++
      [ .arrive ⟨"ns", "a"⟩ (.resource .ended), .unsubscribe 3 ⟨"ns", "a"⟩, .work ⟨"ns", "a"⟩ ]
  have hends : ((Manager.start default () (some 0) (Quota.new 10 100)).run Policy.standard
      .accepting labels).map (fun r => (streamsOf ⟨"ns", "a"⟩ r.2).closed.map
        (fun stream => (stream.1.map fun u => (u.reason, u.terminal), stream.2))) =
      some [([("Initializing", false), ("WatchClosed", true)], .watchClosed),
        ([("Initializing", false)], .cancelled)] := by
    decide +kernel
  have hclock : ∀ t, Label.setClock t ∈ labels →
      (t.sub? Policy.standard.config.retention.age).isSome = true := by
    intro t ht
    simp [labels, Label.setup] at ht
  obtain ⟨⟨m, occurred⟩, hrun, hread⟩ := Option.map_eq_some_iff.mp hends
  obtain ⟨hclosed, -⟩ :=
    streams_end_once (by decide) (by decide +kernel) hclock hrun ⟨"ns", "a"⟩
  exact ⟨m, occurred, hrun, hread, hclosed⟩

/-- Over every run each update that is handed over is marked as terminal exactly if it is a verdict
or a farewell, and a farewell never carries the phase of a verdict; and as long as a worker goes on,
the phase of its subscription is neither ready nor failed. -/
theorem updates_marked {perCallerLimit globalLimit : Nat} {now : Instant} {world : σ}
    {bound : Option Nat} {labels : List Label} {m : Manager σ} {occurred : List Occurrence}
    (hrun : (Manager.start now world bound (Quota.new perCallerLimit globalLimit)).run policy sinks
      labels = some (m, occurred)) :
    (∀ sink target u fate, .delivered sink target u fate ∈ occurred → fate ≠ .coalesced →
      u.Marked) ∧
      ∀ w ∈ m.workers, w.finished = false →
        w.session.subscription.phase ≠ .ready ∧ w.session.subscription.phase ≠ .failed := by
  have hchronicled : Chronicled policy (fun _ => True) m occurred :=
    run_chronicled trivial (fun _ _ => trivial) hrun
  refine ⟨?_, ?_⟩
  · intro sink target u fate hu hfate
    rcases streamsOf_holds target hu hfate with ⟨stream, hstream, hu⟩ | hu
    · exact (hchronicled.closed target stream hstream).wellEnded.marked hu
    · by_cases hworker : ∃ w ∈ m.workers, w.target = target
      · obtain ⟨w, hw, rfl⟩ := hworker
        obtain ⟨opening, signals, hlived⟩ := hchronicled.current w hw
        rw [← hlived.said] at hu
        exact (Opening.run_wellEnded hlived.opens.isSound signals).1.marked hu
      · have hnone : (streamsOf target occurred).current = [] :=
          hchronicled.idle target fun w hw htarget => hworker ⟨w, hw, htarget⟩
        rw [hnone] at hu
        cases hu
  · intro w hw hrunning
    obtain ⟨opening, signals, hlived⟩ := hchronicled.current w hw
    have hphase := (Opening.run_wellEnded hlived.opens.isSound signals).2 (hlived.going hrunning)
    rw [hlived.session hrunning] at hphase
    grind

/-- One deployment is deleted while its machines are being provisioned, after its events were lost;
another one is still watched. -/
theorem updates_marked_deleted_while_provisioning :
    ∃ m occurred,
      (Manager.start default () (some 0) (Quota.new 10 100)).run Policy.standard .accepting
        (Label.setup 1 ⟨"ann", ⟨"ns", "a"⟩, none⟩ .blank
            [ ⟨⟨"Machine", "a", none⟩, "InfrastructureProvisioning", "", "Normal", none, none,
                none⟩ ] ++
          Label.setup 2 ⟨"bob", ⟨"ns", "b"⟩, none⟩ .blank [] ++
          [ .arrive ⟨"ns", "a"⟩ (.event (.error (.stream "gone"))), .work ⟨"ns", "a"⟩,
            .arrive ⟨"ns", "a"⟩ (.resource (.change ⟨.blank, .deleted⟩)), .work ⟨"ns", "a"⟩ ]) =
        some (m, occurred) ∧
      (streamsOf ⟨"ns", "a"⟩ occurred).closed.map
          (fun stream => stream.1.map fun u => (u.reason, u.phase, u.terminal)) =
        [[("Initializing", .initializing, false),
          ("InfrastructureProvisioning", .provisioning, false),
          ("EventStreamError", .provisioning, false), ("ResourceDeleted", .provisioning, true)]] ∧
      m.workers.map Worker.target = [⟨"ns", "b"⟩] ∧
      (∀ sink target u fate, .delivered sink target u fate ∈ occurred → fate ≠ .coalesced →
        u.Marked) ∧
      ∀ w ∈ m.workers, w.finished = false →
        w.session.subscription.phase ≠ .ready ∧ w.session.subscription.phase ≠ .failed := by
  let labels : List Label :=
    Label.setup 1 ⟨"ann", ⟨"ns", "a"⟩, none⟩ .blank
        [ ⟨⟨"Machine", "a", none⟩, "InfrastructureProvisioning", "", "Normal", none, none,
            none⟩ ] ++
      Label.setup 2 ⟨"bob", ⟨"ns", "b"⟩, none⟩ .blank [] ++
      [ .arrive ⟨"ns", "a"⟩ (.event (.error (.stream "gone"))), .work ⟨"ns", "a"⟩,
        .arrive ⟨"ns", "a"⟩ (.resource (.change ⟨.blank, .deleted⟩)), .work ⟨"ns", "a"⟩ ]
  have hends : ((Manager.start default () (some 0) (Quota.new 10 100)).run Policy.standard
      .accepting labels).map (fun r => ((streamsOf ⟨"ns", "a"⟩ r.2).closed.map
        (fun stream => stream.1.map fun u => (u.reason, u.phase, u.terminal)),
          r.1.workers.map Worker.target)) =
      some ([[("Initializing", .initializing, false),
        ("InfrastructureProvisioning", .provisioning, false),
        ("EventStreamError", .provisioning, false), ("ResourceDeleted", .provisioning, true)]],
          [⟨"ns", "b"⟩]) := by
    decide +kernel
  obtain ⟨⟨m, occurred⟩, hrun, hread⟩ := Option.map_eq_some_iff.mp hends
  obtain ⟨hclosed, hworkers⟩ := Prod.mk.inj hread
  obtain ⟨hmarked, hphase⟩ := updates_marked hrun
  exact ⟨m, occurred, hrun, hclosed, hworkers, hmarked, hphase⟩

/-- Where no rule is terminal and every cutoff can be told: of two runs of a subscription with the
same deployment and the same own signals at the same readings, whatever events are listed or
streamed and whether or not they can be listed or streamed, neither ends before the other.  They
end at the same own signal for the same reason, and their terminal updates are the same, or
farewells that differ in the phase. -/
theorem events_decide_nothing
    (hrules : ∀ rule ∈ policy.rules, rule.phase.isTerminal = false)
    {request : SubscribeRequest} {d : Deployment} {now : Instant}
    (hnow : (now.sub? policy.config.retention.age).isSome = true)
    {watched watched' : Except WatchError Unit} {listed listed' : Except WatchError (List Event)}
    {signals signals' : List (Instant × Signal)}
    (hreadings : ∀ timed ∈ signals, (timed.1.sub? policy.config.retention.age).isSome = true)
    (hreadings' : ∀ timed ∈ signals', (timed.1.sub? policy.config.retention.age).isSome = true)
    (hsame : ownSignals signals = ownSignals signals') {o : Opening}
    (hopens : openSession? policy request d (listed.toOption.getD []) watched.toOption.isSome now =
      some o) :
    ∃ o', openSession? policy request d (listed'.toOption.getD []) watched'.toOption.isSome now =
        some o' ∧
      (o.run signals).ending = (o'.run signals').ending ∧
      ownSignals (o.turnedTo signals) = ownSignals (o'.turnedTo signals') ∧
      (∀ ending, (o.run signals).ending = some ending →
        Opening.EndTogether (o.turnedTo signals) (o'.turnedTo signals')) ∧
      List.Forall₂ Update.SameLast ((o.run signals).updates.filter Update.terminal)
        ((o'.run signals').updates.filter Update.terminal) := by
  obtain ⟨hfits, hopened⟩ := openSession?_eq_some_iff.mp hopens
  obtain ⟨o', hopened'⟩ := Subscription.openWith_ok (s := newSubscription policy request now) hnow d
    (listed'.toOption.getD []) policy.config.eventSnapshotLimit watched'.toOption.isSome
  have hto : (newSubscription policy request now).OpensTo d now o :=
    Subscription.openWith_opensTo hrules hopened
  have hto' : (newSubscription policy request now).OpensTo d now o' :=
    Subscription.openWith_opensTo hrules hopened'
  obtain ⟨hending, hturned, hlast⟩ := Opening.run_alike hto hto' hreadings hreadings' hsame
  refine ⟨o', openSession?_eq_some_iff.mpr ⟨hfits, hopened'⟩, hending, hturned, ?_,
    sameLast_of_lastWords hlast⟩
  intro ending hends
  exact Opening.run_endTogether hto hto' hreadings hreadings' hsame hends

/-- The default rules are not terminal.  Of two subscriptions with these rules one hears of machines
being provisioned and loses its events then, the other never has any; both lose their watch after a
tick, but their farewells carry different phases. -/
theorem events_decide_nothing_of_lost_watch :
    (∀ rule ∈ Policy.standard.rules, rule.phase.isTerminal = false) ∧ ∃ o o',
      openSession? .standard ⟨"ann", ⟨"ns", "a"⟩, none⟩ .blank [] true default = some o ∧
      openSession? .standard ⟨"ann", ⟨"ns", "a"⟩, none⟩ .blank [] false default = some o' ∧
      (o.run (tickThenLost true)).ending = some .watchClosed ∧
      ((o.run (tickThenLost true)).updates.filter Update.terminal).map Update.phase =
        [.provisioning] ∧
      ((o'.run (tickThenLost false)).updates.filter Update.terminal).map Update.phase =
        [.initializing] ∧
      (o.run (tickThenLost true)).ending = (o'.run (tickThenLost false)).ending ∧
      Opening.EndTogether (o.turnedTo (tickThenLost true))
        (o'.turnedTo (tickThenLost false)) ∧
      List.Forall₂ Update.SameLast
        ((o.run (tickThenLost true)).updates.filter Update.terminal)
        ((o'.run (tickThenLost false)).updates.filter Update.terminal) := by
  have hopens : ((openSession? .standard ⟨"ann", ⟨"ns", "a"⟩, none⟩ .blank [] true default).map
      fun o => ((o.run (tickThenLost true)).ending,
        ((o.run (tickThenLost true)).updates.filter Update.terminal).map Update.phase)) =
      some (some .watchClosed, [.provisioning]) := by
    decide +kernel
  have hopens' : ((openSession? .standard ⟨"ann", ⟨"ns", "a"⟩, none⟩ .blank [] false default).map
      fun o => ((o.run (tickThenLost false)).updates.filter Update.terminal).map
        Update.phase) = some [.initializing] := by
    decide +kernel
  have hrules : ∀ rule ∈ Policy.standard.rules, rule.phase.isTerminal = false := by
    decide
  have hreadings : ∀ heard, ∀ timed ∈ tickThenLost heard,
      (timed.1.sub? Policy.standard.config.retention.age).isSome = true := by
    decide +kernel
  obtain ⟨o, ho, hread⟩ := Option.map_eq_some_iff.mp hopens
  obtain ⟨hending, hphase⟩ := Prod.mk.inj hread
  obtain ⟨o', ho', hsame, -, htogether, hlast⟩ :=
    @events_decide_nothing Policy.standard hrules ⟨"ann", ⟨"ns", "a"⟩, none⟩ .blank default
      (by decide +kernel) (.ok ()) (.error (.api "no")) (.ok []) (.error (.api "no"))
      (tickThenLost true) (tickThenLost false) (hreadings true) (hreadings false) rfl o ho
  obtain ⟨o'', ho'', hphase'⟩ := Option.map_eq_some_iff.mp hopens'
  obtain rfl : o' = o'' := Option.some.inj (ho'.symm.trans ho'')
  exact ⟨hrules, o, o', ho, ho', hending, hphase, hphase', hsame, htogether _ hending, hlast⟩

end Manager
end ProvisionWatch

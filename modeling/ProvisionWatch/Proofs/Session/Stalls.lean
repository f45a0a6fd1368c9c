import ProvisionWatch.Proofs.Session.Context
import ProvisionWatch.Proofs.Session.Unstalled
import ProvisionWatch.Proofs.Subscription.Cutoff
import ProvisionWatch.Proofs.Time.Order

/-!
# When stalls are counted

The conditions of a deployment change when a change brings others than were known.
From then on they stand, and the first tick that comes the threshold later counts
a stall.  What a session keeps for this is a clock of its own: every signal turns
it, and what it shows decides alone which tick counts.

A tick that cannot prune the window breaks the session down before it looks for a
stall.

Main results:

- Theorem `run_timed`: a session that goes on has turned its clock.
- Theorem `stalls_le_of_steady`: while the conditions stand one stall is counted at
  most.
- Theorem `stalls_of_steady`: which signal counts it.
-/

namespace ProvisionWatch

/-! ## The clock of a stall -/

/-- What a subscription keeps to tell a stall: the threshold, since when the conditions stand, and
whether the stall was reported. -/
structure StallClock where
  threshold : Span
  since : Instant
  reported : Bool

namespace StallClock

/-- Whether the conditions stand for the threshold at least. -/
def due (c : StallClock) (now : Instant) : Bool :=
  c.threshold ≤ now.since c.since

/-- Whether a tick has a stall to count. -/
def strikes (c : StallClock) (now : Instant) : Bool :=
  !c.reported && c.due now

/-- The conditions have changed. -/
def restart (c : StallClock) (now : Instant) : StallClock :=
  { c with since := now, reported := false }

/-- A tick looks for a stall. -/
def look (c : StallClock) (now : Instant) : StallClock :=
  { c with reported := c.reported || c.due now }

end StallClock

/-- The clock of a subscription. -/
def Subscription.stallClock (s : Subscription) : StallClock :=
  { threshold := s.stallThreshold, since := s.lastChange, reported := s.stallReported }

/-- Whether a signal is a tick. -/
def Signal.isTick : Signal → Bool
  | input .tick => true
  | input _ | cancel => false

theorem Signal.eq_tick {signal : Signal} (h : signal.isTick = true) : signal = .input .tick := by
  cases signal with
  | cancel => cases h
  | input input =>
      cases input with
      | tick => rfl
      | resource | event => cases h

/-- How many stalls a reaction counts. -/
def Reaction.stalls (r : Reaction) : Nat :=
  r.effects.countP Effect.isStall

@[simp]
theorem countP_stallEffects (stalled : Bool) :
    (Session.stallEffects stalled).countP Effect.isStall = stalled.toNat := by
  cases stalled <;> rfl

/-- No two instants lie as far apart as the longest span. -/
theorem Instant.since_lt_longest (now earlier : Instant) :
    (now.since earlier).nanos < Span.longest.nanos := by
  have hlast := now.le_last
  have hfirst := earlier.first_le
  have hnano := now.nano_lt
  unfold Instant.since Span.longest Span.ofMillis
  unfold lastSecond at hlast
  unfold firstSecond at hfirst
  dsimp only
  split <;> split <;> omega

/-- The threshold is as long as it was set, as far as instants can tell. -/
theorem Duration.toSpan_le_since_iff (d : Duration) (now earlier : Instant) :
    d.toSpan ≤ now.since earlier ↔ (d.nanos : Int) ≤ (now.since earlier).nanos :=
  d.toSpan_le_iff (Span.lt_def _ _ |>.mpr (now.since_lt_longest earlier))

namespace Session

variable {s : Session} {now : Instant} {signal : Signal} {known snapshot : Snapshot}

/-! ## What a signal does to the clock -/

/-- What is said leaves the clock as it is. -/
@[simp]
theorem stallClock_say (subscription : Subscription) (before : List Effect) (u : Update)
    (ending : Option Ending) :
    (s.say subscription before u ending).session.subscription.stallClock =
      subscription.stallClock := by
  show (subscription.deliver u).1.stallClock = subscription.stallClock
  rw [Subscription.deliver_eq]
  rfl

@[simp]
theorem stalls_say (subscription : Subscription) (before : List Effect) (u : Update)
    (ending : Option Ending) :
    (s.say subscription before u ending).stalls = before.countP Effect.isStall := by
  simp [say, Reaction.stalls, Effect.isStall]

/-- A signal that is no tick and brings no snapshot leaves the clock alone. -/
theorem take_aside (htick : signal.isTick = false) (hbrings : signal.snapshot? = none) :
    (s.take now signal).session.subscription.stallClock = s.subscription.stallClock ∧
      (s.take now signal).stalls = 0 := by
  have hsay : ∀ (before : List Effect) (u : Update) (ending : Option Ending),
      before.countP Effect.isStall = 0 →
        (s.say s.subscription before u ending).session.subscription.stallClock =
            s.subscription.stallClock ∧
          (s.say s.subscription before u ending).stalls = 0 :=
    fun before u ending hbefore =>
      ⟨stallClock_say _ _ _ _, (stalls_say _ _ _ _).trans hbefore⟩
  cases signal with
  | cancel => exact ⟨rfl, rfl⟩
  | input input =>
      cases input with
      | tick => cases htick
      | event item =>
          cases item with
          | event e =>
              have hhears := s.reactToEvent_hears now e
              show (s.reactToEvent now (.event e)).session.subscription.stallClock = _ ∧
                (s.reactToEvent now (.event e)).stalls = 0
              generalize s.reactToEvent now (.event e) = r at hhears ⊢
              cases hhears with
              | brokeDown scope fault observes => exact ⟨rfl, rfl⟩
              | silent scope observes evaluates => exact ⟨rfl, rfl⟩
              | spoken scope u observes evaluates =>
                  exact ⟨stallClock_say _ _ _ _, stalls_say _ _ _ _⟩
          | error e => exact hsay _ _ _ rfl
          | ended => exact ⟨rfl, rfl⟩
      | resource item =>
          cases item with
          | error e =>
              show (s.reactToResource now (.error e)).session.subscription.stallClock = _ ∧
                (s.reactToResource now (.error e)).stalls = 0
              unfold reactToResource
              dsimp only
              split
              · exact ⟨rfl, rfl⟩
              · exact hsay _ _ _ rfl
          | ended => exact hsay _ _ _ rfl
          | change change =>
              obtain ⟨d, kind⟩ := change
              cases kind with
              | added | modified => cases hbrings
              | deleted => exact hsay _ _ _ rfl

/-- A snapshot restarts the clock exactly if it has other conditions than were known. -/
theorem take_snapshot (hlast : s.subscription.lastSnapshot = some known)
    (hbrings : signal.snapshot? = some snapshot) :
    (s.take now signal).session.subscription.stallClock =
        (if snapshot.conditions = known.conditions then s.subscription.stallClock
          else s.subscription.stallClock.restart now) ∧
      (s.take now signal).stalls = 0 := by
  obtain ⟨⟨d, kind⟩, rfl, hkind, rfl⟩ := Signal.change_of_snapshot? hbrings
  have hclock : (s.subscription.withSnapshot d.snapshot now).stallClock =
      (if d.snapshot.conditions = known.conditions then s.subscription.stallClock
        else s.subscription.stallClock.restart now) := by
    unfold Subscription.withSnapshot
    rw [hlast]
    by_cases hsame : d.snapshot.conditions = known.conditions
    · simp [hsame, Subscription.stallClock]
    · simp [hsame, Ne.symm hsame, Subscription.stallClock, StallClock.restart]
  cases kind with
  | deleted => exact absurd rfl hkind
  | added | modified => exact ⟨(stallClock_say _ _ _ _).trans hclock, stalls_say _ _ _ _⟩

/-- Whether the window of a session can be pruned. -/
def canPrune (s : Session) (now : Instant) : Bool :=
  (now.sub? s.retention.age).isSome

/-- A tick that can prune the window looks for a stall, and counts one that was not reported. -/
theorem take_tick (hworks : s.canPrune now = true) :
    (s.take now (.input .tick)).session.subscription.stallClock =
        s.subscription.stallClock.look now ∧
      (s.take now (.input .tick)).stalls = (s.subscription.stallClock.strikes now).toNat := by
  have hok := Scope.prune_ok hworks
  have hlooked : ∀ scope, (s.subscription.lookedAt scope now).stallClock =
      s.subscription.stallClock.look now := by
    intro scope
    simp only [Subscription.lookedAt, Subscription.stallClock, StallClock.look,
      Subscription.stallsAt, StallClock.due]
    cases s.subscription.stallReported <;> rfl
  have hticks := s.reactToTick_ticks now
  show (s.reactToTick now).session.subscription.stallClock = _ ∧ (s.reactToTick now).stalls = _
  generalize s.reactToTick now = r at hticks ⊢
  cases hticks with
  | brokeDown scope fault prunes =>
      rw [prunes] at hok
      cases hok
  | expired scope prunes deadline =>
      exact ⟨(stallClock_say _ _ _ _).trans (hlooked scope),
        (stalls_say _ _ _ _).trans (countP_stallEffects _)⟩
  | warned scope prunes deadline unwarned warning =>
      exact ⟨(stallClock_say _ _ _ _).trans (hlooked scope),
        (stalls_say _ _ _ _).trans (countP_stallEffects _)⟩
  | quiet scope prunes deadline early => exact ⟨hlooked scope, countP_stallEffects _⟩

/-- A tick that cannot prune the window breaks the session down and counts nothing. -/
theorem take_tick_of_fault (hfails : s.canPrune now = false) :
    (s.take now (.input .tick)).ending = some .aborted ∧
      (s.take now (.input .tick)).stalls = 0 := by
  rcases hprune : s.subscription.scope.prune now with ⟨scope, result⟩
  cases result with
  | error fault =>
      show (s.reactToTick now).ending = _ ∧ (s.reactToTick now).stalls = 0
      rw [reactToTick_of_fault hprune]
      exact ⟨rfl, rfl⟩
  | ok =>
      have hok := (Window.prune_ok_iff s.subscription.scope.window now).mp
        (congrArg Prod.snd hprune)
      rw [canPrune, retention, hok] at hfails
      cases hfails

end Session

/-! ## The clock along a run -/

/-- The snapshot that is known after some signals. -/
def latestSnapshot (known : Snapshot) (signals : List (Instant × Signal)) : Snapshot :=
  signals.foldl (fun known timed => timed.2.snapshot?.getD known) known

/-- No signal brings other conditions than are known. -/
def Steady (known : Snapshot) (signals : List (Instant × Signal)) : Prop :=
  ∀ timed ∈ signals, ∀ snapshot, timed.2.snapshot? = some snapshot →
    snapshot.conditions = known.conditions

theorem Steady.head {known : Snapshot} {timed : Instant × Signal}
    {rest : List (Instant × Signal)} (h : Steady known (timed :: rest)) :
    Steady known [timed] := by
  intro first hfirst
  obtain rfl := List.mem_singleton.mp hfirst
  exact h first List.mem_cons_self

theorem Steady.tail {known : Snapshot} {timed : Instant × Signal}
    {rest : List (Instant × Signal)} (h : Steady known (timed :: rest)) :
    Steady (timed.2.snapshot?.getD known) rest := by
  intro later hlater snapshot hbrings
  rw [h later (List.mem_cons_of_mem _ hlater) snapshot hbrings]
  cases hfirst : timed.2.snapshot? with
  | none => rfl
  | some first => exact (h timed List.mem_cons_self first hfirst).symm

namespace StallClock

variable {c : StallClock} {known snapshot : Snapshot} {now : Instant} {signal : Signal}

/-- The clock after a signal. -/
def turn (c : StallClock) (known : Snapshot) (now : Instant) (signal : Signal) : StallClock :=
  match signal.snapshot? with
  | some snapshot => if snapshot.conditions = known.conditions then c else c.restart now
  | none => if signal.isTick then c.look now else c

/-- The clock after signals in order. -/
def turnAll (c : StallClock) (known : Snapshot) : List (Instant × Signal) → StallClock
  | [] => c
  | (now, signal) :: rest => (c.turn known now signal).turnAll (signal.snapshot?.getD known) rest

@[simp]
theorem turnAll_append (c : StallClock) (known : Snapshot)
    (signals later : List (Instant × Signal)) :
    c.turnAll known (signals ++ later) =
      (c.turnAll known signals).turnAll (latestSnapshot known signals) later := by
  induction signals generalizing c known with
  | nil => rfl
  | cons timed rest ih => exact ih _ _

/-- A snapshot with other conditions restarts the clock. -/
theorem turn_of_changed (hbrings : signal.snapshot? = some snapshot)
    (hchanged : snapshot.conditions ≠ known.conditions) :
    c.turn known now signal = c.restart now := by
  unfold turn
  rw [hbrings]
  exact if_neg hchanged

/-- Whether a tick that comes with these signals finds the conditions standing for the threshold. -/
def dueAmong (c : StallClock) (signals : List (Instant × Signal)) : Bool :=
  signals.any fun timed => timed.2.isTick && c.due timed.1

theorem turn_of_steady (h : Steady known [(now, signal)]) :
    c.turn known now signal =
      { c with reported := c.reported || (signal.isTick && c.due now) } := by
  unfold turn
  cases hbrings : signal.snapshot? with
  | some snapshot =>
      have htick : signal.isTick = false := by
        obtain ⟨change, rfl, -⟩ := Signal.change_of_snapshot? hbrings
        rfl
      rw [htick, Bool.false_and, Bool.or_false]
      exact if_pos (h _ List.mem_cons_self snapshot hbrings)
  | none =>
      cases signal.isTick with
      | true => rfl
      | false =>
          rw [Bool.false_and, Bool.or_false]
          rfl

/-- While the conditions stand the clock only remembers whether a tick found them standing for the
threshold. -/
theorem turnAll_of_steady {signals : List (Instant × Signal)} (h : Steady known signals) :
    c.turnAll known signals = { c with reported := c.reported || c.dueAmong signals } := by
  induction signals generalizing c known with
  | nil =>
      show c = { c with reported := c.reported || false }
      rw [Bool.or_false]
  | cons timed rest ih =>
      obtain ⟨now, signal⟩ := timed
      rw [turnAll, ih h.tail, turn_of_steady h.head]
      show ({ c with reported := (c.reported || _) || _ } : StallClock) = _
      rw [Bool.or_assoc]
      rfl

end StallClock

namespace Session

variable {kept : Retention} {known : Snapshot} {clock : StallClock} {s : Session} {now : Instant}
variable {signal : Signal}

/-- What is known to a session, the clock of its stalls and how it retains events. -/
structure Timed (kept : Retention) (known : Snapshot) (clock : StallClock) (s : Session) :
    Prop where
  last : s.subscription.lastSnapshot = some known
  clock : s.subscription.stallClock = clock
  retention : s.retention = kept

/-- A session that goes on after a signal has turned its clock. -/
theorem take_timed (h : s.Timed kept known clock) (hgoing : (s.take now signal).ending = none) :
    (s.take now signal).session.Timed kept (signal.snapshot?.getD known)
      (clock.turn known now signal) where
  last := (take_informed h.last now signal).last
  retention := (s.take_keeps now signal).retention.trans h.retention
  clock := by
    rw [← h.clock]
    unfold StallClock.turn
    cases hbrings : signal.snapshot? with
    | some snapshot => exact (take_snapshot h.last hbrings).1
    | none =>
        cases htick : signal.isTick with
        | false => exact (take_aside htick hbrings).1
        | true =>
            obtain rfl := Signal.eq_tick htick
            cases hworks : s.canPrune now with
            | true => exact (take_tick hworks).1
            | false =>
                rw [(take_tick_of_fault hworks).1] at hgoing
                cases hgoing

/-- A signal counts a stall exactly if it is a tick that can prune, and finds a stall that was not
reported. -/
theorem stalls_take (h : s.Timed kept known clock) :
    (s.take now signal).stalls =
      (signal.isTick && (now.sub? kept.age).isSome && clock.strikes now).toNat := by
  cases htick : signal.isTick with
  | false =>
      cases hbrings : signal.snapshot? with
      | some snapshot => exact (take_snapshot h.last hbrings).2
      | none => exact (take_aside htick hbrings).2
  | true =>
      obtain rfl := Signal.eq_tick htick
      have hprunes : s.canPrune now = (now.sub? kept.age).isSome := by
        rw [canPrune, h.retention]
      rw [← hprunes]
      cases hworks : s.canPrune now with
      | false => exact (take_tick_of_fault hworks).2
      | true =>
          rw [(take_tick hworks).2, h.clock]
          rfl

theorem run_timed {signals : List (Instant × Signal)} (h : s.Timed kept known clock)
    (hgoing : (s.run signals).ending = none) :
    (s.run signals).session.Timed kept (latestSnapshot known signals)
      (clock.turnAll known signals) := by
  induction signals generalizing s known clock with
  | nil => exact h
  | cons timed rest ih =>
      obtain ⟨now, signal⟩ := timed
      cases hfirst : (s.take now signal).ending with
      | some ending =>
          rw [run_cons_of_ended s now signal ending rest hfirst, hfirst] at hgoing
          cases hgoing
      | none =>
          rw [run_cons s now signal rest hfirst] at hgoing ⊢
          exact ih (take_timed h hfirst) hgoing

/-- While the conditions stand, a stall is counted only if it was not reported, and is reported
then. -/
theorem stalls_take_le (h : s.Timed kept known clock) (hsteady : Steady known [(now, signal)]) :
    (s.take now signal).stalls + clock.reported.toNat ≤
      (clock.turn known now signal).reported.toNat := by
  rw [stalls_take h, StallClock.turn_of_steady hsteady, StallClock.strikes]
  dsimp only
  generalize (now.sub? kept.age).isSome = works
  revert works
  generalize signal.isTick = tick, clock.reported = reported, clock.due now = due
  revert tick reported due
  decide

/-- While the conditions stand one stall is counted at most, and none if one was reported. -/
theorem stalls_run_le {signals : List (Instant × Signal)} (h : s.Timed kept known clock)
    (hsteady : Steady known signals) : (s.run signals).stalls + clock.reported.toNat ≤ 1 := by
  induction signals generalizing s known clock with
  | nil =>
      show 0 + clock.reported.toNat ≤ 1
      rw [Nat.zero_add]
      exact clock.reported.toNat_le
  | cons timed rest ih =>
      obtain ⟨now, signal⟩ := timed
      have hfirst := stalls_take_le h hsteady.head
      cases hending : (s.take now signal).ending with
      | some ending =>
          rw [run_cons_of_ended s now signal ending rest hending]
          exact Nat.le_trans hfirst (Bool.toNat_le _)
      | none =>
          have hrest := ih (take_timed h hending) hsteady.tail
          rw [run_cons s now signal rest hending, Reaction.stalls, List.countP_append]
          show (s.take now signal).stalls + ((s.take now signal).session.run rest).stalls +
            clock.reported.toNat ≤ 1
          omega

end Session

/-! ## Openings -/

namespace Opening

variable {o : Opening} {signals : List (Instant × Signal)}

/-- A run that goes on takes up where it was left. -/
theorem run_append (hgoing : (o.run signals).ending = none) (later : List (Instant × Signal)) :
    o.run (signals ++ later) =
      { (o.run signals).session.run later with
        effects := (o.run signals).effects ++ ((o.run signals).session.run later).effects } := by
  cases hfinished : o.finished with
  | true =>
      rw [run_of_finished hfinished] at hgoing
      cases hgoing
  | false =>
      simp only [run_of_going hfinished] at hgoing ⊢
      rw [Session.run_append o.session signals later hgoing]
      simp only [List.append_assoc]

/-- After the end nothing has an effect. -/
theorem run_append_of_ended {ending : Ending} (h : (o.run signals).ending = some ending)
    (later : List (Instant × Signal)) : o.run (signals ++ later) = o.run signals := by
  cases hfinished : o.finished with
  | true => rw [run_of_finished hfinished, run_of_finished hfinished]
  | false =>
      rw [run_of_going hfinished] at h
      rw [run_of_going hfinished, run_of_going hfinished,
        Session.run_append_of_ended o.session signals later ending h]

theorem stalls_run_append (hgoing : (o.run signals).ending = none)
    (later : List (Instant × Signal)) :
    (o.run (signals ++ later)).stalls =
      (o.run signals).stalls + ((o.run signals).session.run later).stalls := by
  rw [run_append hgoing]
  exact List.countP_append ..

end Opening

namespace Subscription

theorem stallClock_openFirst {s : Subscription} (hnew : s.lastSnapshot = none) (d : Deployment)
    (now : Instant) : (s.openFirst d now).1.stallClock = ⟨s.stallThreshold, now, false⟩ := by
  rw [openFirst_eq, deliver_eq]
  unfold withSnapshot
  rw [hnew]
  rfl

/-- A session opens with its clock at zero. -/
theorem openWith_timed {s : Subscription} (hnew : s.lastSnapshot = none) {d : Deployment}
    {listed : List Event} {limit : Nat} {hearsEvents : Bool} {now : Instant} {o : Opening}
    (h : s.openWith d listed limit hearsEvents now = .ok o) :
    o.session.Timed s.scope.window.retention d.snapshot ⟨s.stallThreshold, now, false⟩ := by
  have hclock : ∀ {seeded : Subscription} {result : Except RangeFault (Option Event)},
      s.seed listed limit now = (seeded, result) →
        (seeded.openFirst d now).1.stallClock = ⟨s.stallThreshold, now, false⟩ := by
    intro seeded result seeds
    obtain ⟨scope, -, rfl⟩ := seed_eq seeds
    exact stallClock_openFirst (s := { s with scope := scope }) hnew d now
  refine ⟨(openWith_informed h).1, ?_, openWith_retention h⟩
  cases openWith_starts h with
  | finished seeded newest seeds terminal | silent seeded newest seeds going => exact hclock seeds
  | replayed seeded e u seeds going evaluates moves =>
      rw [deliver_eq]
      exact hclock seeds

end Subscription

/-! ## Since the conditions changed -/

/-- The conditions that are known after signals were brought at an instant: by the opening, or by
the last of the signals, which brings other conditions than were known. -/
inductive ChangedAt (d : Deployment) (start : Instant) : List (Instant × Signal) → Instant → Prop
  | opened : ChangedAt d start [] start
  | changed (earlier : List (Instant × Signal)) (now : Instant) {signal : Signal}
      {snapshot : Snapshot} (brings : signal.snapshot? = some snapshot)
      (differs : snapshot.conditions ≠ (latestSnapshot d.snapshot earlier).conditions) :
      ChangedAt d start (earlier ++ [(now, signal)]) now

@[simp]
theorem StallClock.threshold_turnAll (c : StallClock) (known : Snapshot)
    (signals : List (Instant × Signal)) : (c.turnAll known signals).threshold = c.threshold := by
  induction signals generalizing c known with
  | nil => rfl
  | cons timed rest ih =>
      obtain ⟨now, signal⟩ := timed
      refine (ih _ _).trans ?_
      unfold turn
      cases signal.snapshot? with
      | none => cases signal.isTick <;> rfl
      | some snapshot =>
          dsimp only
          split <;> rfl

/-- A change starts the clock anew. -/
theorem StallClock.turnAll_of_changedAt {d : Deployment} {start since : Instant}
    {signals : List (Instant × Signal)} (h : ChangedAt d start signals since) (threshold : Span) :
    (⟨threshold, start, false⟩ : StallClock).turnAll d.snapshot signals =
      ⟨threshold, since, false⟩ := by
  cases h with
  | opened => rfl
  | changed earlier now brings differs =>
      rw [turnAll_append, turnAll, turnAll, turn_of_changed brings differs, restart,
        threshold_turnAll]

namespace Opening

variable {o : Opening} {kept : Retention} {d : Deployment} {threshold : Span}
variable {start since : Instant} {earlier later : List (Instant × Signal)}

/-- A session that goes on after its conditions changed has its clock at zero. -/
theorem run_timed_of_changedAt (ho : o.session.Timed kept d.snapshot ⟨threshold, start, false⟩)
    (hchanged : ChangedAt d start earlier since) (hgoing : (o.run earlier).ending = none) :
    (o.run earlier).session.Timed kept (latestSnapshot d.snapshot earlier)
      ⟨threshold, since, false⟩ := by
  cases hfinished : o.finished with
  | true =>
      rw [run_of_finished hfinished] at hgoing
      cases hgoing
  | false =>
      rw [run_of_going hfinished] at hgoing ⊢
      rw [← StallClock.turnAll_of_changedAt hchanged threshold]
      exact Session.run_timed ho hgoing

/-- After a change one stall is counted at most, as long as the conditions stand. -/
theorem stalls_le_of_steady (ho : o.session.Timed kept d.snapshot ⟨threshold, start, false⟩)
    (hchanged : ChangedAt d start earlier since)
    (hsteady : Steady (latestSnapshot d.snapshot earlier) later) :
    (o.run (earlier ++ later)).stalls ≤ (o.run earlier).stalls + 1 := by
  cases hearlier : (o.run earlier).ending with
  | some ending =>
      rw [run_append_of_ended hearlier]
      exact Nat.le_succ _
  | none =>
      have htimed := run_timed_of_changedAt ho hchanged hearlier
      rw [stalls_run_append hearlier]
      exact Nat.add_le_add_left (Session.stalls_run_le htimed hsteady) _

/-- After a change, and as long as the conditions stand, the one signal that counts a stall is the
first tick the threshold later, if it can prune. -/
theorem stalls_of_steady (ho : o.session.Timed kept d.snapshot ⟨threshold, start, false⟩)
    (hchanged : ChangedAt d start earlier since)
    (hsteady : Steady (latestSnapshot d.snapshot earlier) later)
    (hgoing : (o.run (earlier ++ later)).ending = none) (now : Instant) (signal : Signal) :
    (o.run (earlier ++ later ++ [(now, signal)])).stalls =
      (o.run (earlier ++ later)).stalls +
        (signal.isTick && (now.sub? kept.age).isSome &&
          (⟨threshold, since, (⟨threshold, since, false⟩ : StallClock).dueAmong later⟩ :
            StallClock).strikes now).toNat := by
  cases hearlier : (o.run earlier).ending with
  | some ending =>
      rw [run_append_of_ended hearlier, hearlier] at hgoing
      cases hgoing
  | none =>
      have htimed := run_timed_of_changedAt ho hchanged hearlier
      have hlater : ((o.run earlier).session.run later).ending = none := by
        rw [run_append hearlier] at hgoing
        exact hgoing
      have hnow := Session.run_timed htimed hlater
      rw [StallClock.turnAll_of_steady hsteady, Bool.false_or] at hnow
      rw [stalls_run_append hgoing, Session.run_singleton, run_append hearlier]
      exact congrArg _ (Session.stalls_take hnow)

end Opening
end ProvisionWatch

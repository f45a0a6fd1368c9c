import ProvisionWatch.Proofs.Session.Reactions

/-!
# How a stream ends

An update is terminal for one of two reasons: the deployment is ready or has
failed, or the monitor says why it stops watching.  While a session goes on, its
phase is neither ready nor failed; so no notice of the monitor carries such a
phase, and the first terminal update is the last.

Main results:

- Theorem `take_outcome`: a signal lets the session go on, or is answered by one
  last update, or ends it without a word.
- Theorem `run_wellEnded`: the stream of a whole session is well ended.
- Theorem `run_ne_aborted`: no session breaks down while the age of its events
  can be told.
-/

namespace ProvisionWatch

/-! ## Terminal updates -/

namespace Update

/-- The deployment is ready or has failed, as its conditions or its events tell. -/
def IsVerdict (u : Update) : Prop :=
  (u.phase = .ready ∨ u.phase = .failed) ∧ (u.source = .condition ∨ u.source = .event)

/-- The reasons that the monitor gives when it stops watching. -/
def farewellReasons : List String :=
  ["ResourceDeleted", "MonitoringTimeout", "WatchClosed", "WatchFailed"]

/-- The monitor says why it stops watching. -/
def IsFarewell (u : Update) : Prop :=
  u.source = .system ∧ u.reason ∈ farewellReasons

/-- The severity of a farewell: only a failed watch is an error. -/
def farewellSeverity (reason : String) : Severity :=
  if reason = "WatchFailed" then .error else .warning

/-- An update is marked as terminal exactly if it is a verdict or a farewell; a farewell has its
own severity and never the phase of a verdict. -/
structure Marked (u : Update) : Prop where
  terminal_iff : u.terminal = true ↔ u.IsVerdict ∨ u.IsFarewell
  farewell_severity : u.IsFarewell → u.severity = farewellSeverity u.reason
  farewell_phase : u.IsFarewell → u.phase ≠ .ready ∧ u.phase ≠ .failed

/-- What conditions and events tell is terminal exactly if its phase is. -/
theorem marked_of_phase {u : Update} (hsource : u.source = .condition ∨ u.source = .event)
    (hterminal : u.terminal = u.phase.isTerminal) : u.Marked := by
  have hno : ¬ u.IsFarewell := by
    rintro ⟨hsystem, -⟩
    rw [hsystem] at hsource
    rcases hsource with h | h <;> cases h
  refine ⟨?_, fun h => absurd h hno, fun h => absurd h hno⟩
  rw [hterminal, Phase.isTerminal_iff]
  exact ⟨fun hphase => .inl ⟨hphase, hsource⟩,
    fun h => h.elim And.left fun hfarewell => absurd hfarewell hno⟩

theorem marked_ofSnapshot (s : Snapshot) (events : List Event) (now : Instant) :
    (ofSnapshot s events now).Marked :=
  marked_of_phase (.inl rfl) rfl

end Update

namespace Subscription

/-! ## What a subscription says -/

theorem marked_evaluateEvent {s : Subscription} {e : Event} {now : Instant} {u : Update}
    (h : s.evaluateEvent e now = some u) : u.Marked := by
  have hterminal := terminal_evaluateEvent h
  obtain ⟨evaluation, -, rfl⟩ := Option.map_eq_some_iff.mp h
  exact Update.marked_of_phase (.inr rfl) hterminal

section Notices

variable (s : Subscription) (message reason : String) (severity : Severity) (now : Instant)

@[simp] theorem notice_source : (s.notice message reason severity now).source = .system := by
  unfold notice
  cases s.lastSnapshot <;> rfl

@[simp] theorem notice_reason : (s.notice message reason severity now).reason = reason := by
  unfold notice
  cases s.lastSnapshot <;> rfl

@[simp] theorem notice_severity :
    (s.notice message reason severity now).severity = severity := by
  unfold notice
  cases s.lastSnapshot <;> rfl

@[simp] theorem notice_phase : (s.notice message reason severity now).phase = s.phase := by
  unfold notice
  cases s.lastSnapshot <;> rfl

variable {s reason severity}

/-- A notice with another reason than a farewell leaves the stream open. -/
theorem marked_notice (hreason : reason ∉ Update.farewellReasons) :
    (s.notice message reason severity now).Marked := by
  have hno : ¬ (s.notice message reason severity now).IsFarewell := by
    rintro ⟨-, hmem⟩
    rw [notice_reason] at hmem
    exact hreason hmem
  refine ⟨?_, fun h => absurd h hno, fun h => absurd h hno⟩
  rw [notice_terminal]
  refine ⟨nofun, fun h => h.elim ?_ fun hfarewell => absurd hfarewell hno⟩
  rintro ⟨-, hsource⟩
  rw [notice_source] at hsource
  rcases hsource with h | h <;> cases h

/-- A notice that ends the stream for the reason of a farewell is one. -/
theorem isFarewell_notice (hreason : reason ∈ Update.farewellReasons) :
    (s.notice message reason severity now).ending.IsFarewell := by
  refine ⟨notice_source s message reason severity now, ?_⟩
  show (s.notice message reason severity now).reason ∈ Update.farewellReasons
  rw [notice_reason]
  exact hreason

/-- A farewell is marked rightly as long as the phase is not terminal. -/
theorem marked_farewell (hphase : s.phase.isTerminal = false)
    (hreason : reason ∈ Update.farewellReasons)
    (hseverity : severity = Update.farewellSeverity reason) :
    (s.notice message reason severity now).ending.Marked := by
  have hfarewell : (s.notice message reason severity now).ending.IsFarewell :=
    isFarewell_notice message now hreason
  refine ⟨⟨fun _ => .inr hfarewell, fun _ => rfl⟩, fun _ => ?_, fun _ => ?_⟩
  · show (s.notice message reason severity now).severity =
      Update.farewellSeverity (s.notice message reason severity now).reason
    rw [notice_severity, notice_reason]
    exact hseverity
  · show (s.notice message reason severity now).phase ≠ .ready ∧
      (s.notice message reason severity now).phase ≠ .failed
    rw [notice_phase]
    grind

end Notices

end Subscription

/-! ## What one signal brings about -/

/-- Whether an ending is announced by a last update. -/
def Ending.isAnnounced : Ending → Bool
  | terminal | timeout | watchClosed | watchFailed => true
  | cancelled | aborted => false

/-- What a reaction to a signal comes to. -/
inductive Reaction.Outcome (r : Reaction) : Prop where
  /-- The session goes on. -/
  | goesOn (ending : r.ending = none) (said : ∀ u ∈ r.updates, u.Marked ∧ u.terminal = false)
      (phase : r.session.subscription.phase.isTerminal = false)
  /-- The session has a last word. -/
  | announces (u : Update) (said : r.updates = [u]) (marked : u.Marked) (last : u.terminal = true)
      (ending : Ending) (ends : r.ending = some ending) (announced : ending.isAnnounced = true)
  /-- The session ends without a word. -/
  | stops (said : r.updates = []) (ending : Ending) (ends : r.ending = some ending)
      (silent : ending.isAnnounced = false)

@[simp]
theorem offeredUpdates_append (effects later : List Effect) :
    offeredUpdates (effects ++ later) = offeredUpdates effects ++ offeredUpdates later :=
  List.filterMap_append

namespace Session

variable {s : Session} {subscription : Subscription} {before : List Effect} {u : Update}

section Saying

variable (hbefore : offeredUpdates before = [])
include hbefore

theorem updates_say (ending : Option Ending) :
    (s.say subscription before u ending).updates =
      (subscription.deliver u).2.offered?.toList := by
  show offeredUpdates (before ++ [Effect.delivery (subscription.deliver u).2]) = _
  rw [offeredUpdates, List.filterMap_append, ← offeredUpdates, hbefore]
  cases h : (subscription.deliver u).2 <;> rfl

/-- A last word is spoken, also where it repeats what was said. -/
theorem outcome_say_last (marked : u.Marked) (last : u.terminal = true) {ending : Ending}
    (announced : ending.isAnnounced = true) :
    Reaction.Outcome (s.say subscription before u (some ending)) := by
  have hsaid : (s.say subscription before u (some ending)).updates = [u] := by
    rw [updates_say hbefore, subscription.offered_deliver_of_terminal last]
    rfl
  exact .announces u hsaid marked last ending rfl announced

/-- Any other word lets the session go on in its phase. -/
theorem outcome_say_on (marked : u.Marked) (going : u.terminal = false)
    (phase : subscription.phase.isTerminal = false) :
    Reaction.Outcome (s.say subscription before u none) := by
  refine .goesOn rfl ?_ ?_
  · intro v hv
    rw [updates_say hbefore, Option.mem_toList] at hv
    rw [Subscription.eq_of_offered_deliver hv]
    exact ⟨marked, going⟩
  · show (subscription.deliver u).1.phase.isTerminal = false
    rw [Subscription.deliver_eq]
    exact phase

end Saying

/-- A reported update is the last word if it is terminal. -/
theorem outcome_report (marked : u.Marked)
    (phase : u.terminal = false → subscription.phase.isTerminal = false) :
    Reaction.Outcome (s.report subscription u) := by
  unfold report
  cases hlast : u.terminal with
  | true => exact outcome_say_last rfl marked hlast rfl
  | false => exact outcome_say_on rfl marked hlast (phase hlast)

/-- A change of the deployment. -/
theorem outcome_change (hphase : s.subscription.phase.isTerminal = false) (change : Change)
    (now : Instant) :
    Reaction.Outcome (s.report (s.subscription.applyChange change now).1
      (s.subscription.applyChange change now).2) := by
  unfold Subscription.applyChange
  split
  · exact outcome_report
      (Subscription.marked_farewell _ now hphase (by decide) (by decide)) (fun h => nomatch h)
  · exact outcome_report (Update.marked_ofSnapshot _ _ _) id
  · exact outcome_report (Update.marked_ofSnapshot _ _ _) id

/-- An item of the stream of changes. -/
theorem reactToResource_outcome (hphase : s.subscription.phase.isTerminal = false) (now : Instant)
    (item : ResourceItem) : Reaction.Outcome (s.reactToResource now item) := by
  cases item with
  | change change => exact outcome_change hphase change now
  | error e =>
      unfold reactToResource
      simp only
      split
      · exact .goesOn rfl (by simp [Reaction.updates, offeredUpdates, Effect.offered?]) hphase
      · exact outcome_say_last rfl
          (Subscription.marked_farewell _ now hphase (by decide) (by decide)) rfl rfl
  | ended =>
      exact outcome_say_last rfl
        (Subscription.marked_farewell _ now hphase (by decide) (by decide)) rfl rfl

/-- An event. -/
theorem outcome_event (hphase : s.subscription.phase.isTerminal = false) (e : Event)
    (now : Instant) : Reaction.Outcome (s.reactToEvent now (.event e)) := by
  have h := s.reactToEvent_hears now e
  generalize s.reactToEvent now (.event e) = r at h ⊢
  cases h with
  | brokeDown scope fault observes => exact .stops rfl .aborted rfl rfl
  | silent scope observes evaluates =>
      exact .goesOn rfl (by simp [Reaction.updates]) hphase
  | spoken scope u observes evaluates =>
      refine outcome_report (Subscription.marked_evaluateEvent evaluates) fun hgoing => ?_
      rw [Subscription.terminal_evaluateEvent evaluates] at hgoing
      exact hgoing

/-- An item of the stream of events. -/
theorem reactToEvent_outcome (hphase : s.subscription.phase.isTerminal = false) (now : Instant)
    (item : EventItem) : Reaction.Outcome (s.reactToEvent now item) := by
  cases item with
  | event e => exact outcome_event hphase e now
  | error e =>
      exact outcome_say_on rfl (Subscription.marked_notice _ now (by decide))
        (Subscription.notice_terminal _ _ _ _ now) hphase
  | ended =>
      exact .goesOn rfl (by simp [Reaction.updates, reactToEvent]) hphase

@[simp]
theorem offeredUpdates_stallEffects (stalled : Bool) :
    offeredUpdates (stallEffects stalled) = [] := by
  cases stalled <;> rfl

/-- A tick of the timer. -/
theorem reactToTick_outcome (hphase : s.subscription.phase.isTerminal = false) (now : Instant) :
    Reaction.Outcome (s.reactToTick now) := by
  have h := s.reactToTick_ticks now
  generalize s.reactToTick now = r at h ⊢
  cases h with
  | brokeDown scope fault prunes => exact .stops rfl .aborted rfl rfl
  | expired scope prunes deadline =>
      exact outcome_say_last (offeredUpdates_stallEffects _)
        (Subscription.marked_farewell _ now hphase (by decide) (by decide)) rfl rfl
  | warned scope prunes deadline unwarned warning =>
      exact outcome_say_on (offeredUpdates_stallEffects _)
        (Subscription.marked_notice _ now (by decide))
        (Subscription.notice_terminal _ _ _ _ now) hphase
  | quiet scope prunes deadline early =>
      exact .goesOn rfl (by simp [Reaction.updates]) hphase

/-- While its phase is not terminal, a session that turns to a signal goes on, or has a last word,
or ends without one. -/
theorem take_outcome (hphase : s.subscription.phase.isTerminal = false) (now : Instant)
    (signal : Signal) : Reaction.Outcome (s.take now signal) := by
  cases signal with
  | cancel => exact .stops rfl .cancelled rfl rfl
  | input input =>
      cases input with
      | resource item => exact reactToResource_outcome hphase now item
      | event item => exact reactToEvent_outcome hphase now item
      | tick => exact reactToTick_outcome hphase now

end Session

/-! ## Streams -/

/-- A stream is well ended: its updates are marked, and the terminal one, if there is any, stands
at the end and announces an ending that is announced. -/
inductive WellEnded : List Update → Option Ending → Prop where
  | silent {ending : Option Ending} (h : ending.any Ending.isAnnounced = false) :
      WellEnded [] ending
  | last {u : Update} {ending : Option Ending} (marked : u.Marked) (terminal : u.terminal = true)
      (h : ending.any Ending.isAnnounced = true) : WellEnded [u] ending
  | cons {u : Update} {rest : List Update} {ending : Option Ending} (marked : u.Marked)
      (going : u.terminal = false) (h : WellEnded rest ending) : WellEnded (u :: rest) ending

namespace WellEnded

variable {updates : List Update} {ending : Option Ending}

/-- More can be said before a stream as long as it is not terminal. -/
theorem prepend (h : WellEnded updates ending) {before : List Update}
    (hbefore : ∀ u ∈ before, u.Marked ∧ u.terminal = false) :
    WellEnded (before ++ updates) ending := by
  induction before with
  | nil => exact h
  | cons u before ih =>
      have hu := hbefore u List.mem_cons_self
      exact .cons hu.1 hu.2 (ih fun v hv => hbefore v (List.mem_cons_of_mem _ hv))

/-- A stream that goes on is well ended as soon as the session ends without a word. -/
theorem of_silent (h : WellEnded updates none) (hsilent : ending.any Ending.isAnnounced = false) :
    WellEnded updates ending := by
  generalize hgoing : none = going at h
  induction h with
  | silent => exact .silent hsilent
  | last marked terminal h =>
      rw [← hgoing] at h
      cases h
  | cons marked going h ih => exact .cons marked going (ih hgoing)

theorem marked (h : WellEnded updates ending) {u : Update} (hu : u ∈ updates) : u.Marked := by
  induction h with
  | silent => cases hu
  | last marked =>
      rw [List.mem_singleton.mp hu]
      exact marked
  | cons marked going h ih =>
      rcases List.mem_cons.mp hu with rfl | hu
      · exact marked
      · exact ih hu

/-- Nothing follows a terminal update. -/
theorem going_of_mem_dropLast (h : WellEnded updates ending) {u : Update}
    (hu : u ∈ updates.dropLast) : u.terminal = false := by
  induction h with
  | silent => cases hu
  | last => cases hu
  | @cons v rest ending marked going h ih =>
      cases rest with
      | nil => cases hu
      | cons w rest =>
          rw [List.dropLast_cons_cons] at hu
          rcases List.mem_cons.mp hu with rfl | hu
          · exact going
          · exact ih hu

/-- An announced ending has one terminal update, and any other has none. -/
theorem countP_terminal (h : WellEnded updates ending) :
    updates.countP Update.terminal = if ending.any Ending.isAnnounced then 1 else 0 := by
  induction h with
  | silent h => simp [h]
  | last marked terminal h => simp [terminal, h]
  | cons marked going h ih =>
      rw [List.countP_cons_of_neg (by simp [going]), ih]

end WellEnded

/-! ## Runs of a session -/

namespace Session

variable {s : Session}

/-- From a phase that is not terminal on, a session is well ended; and while it goes on its phase
is not terminal. -/
theorem run_wellEnded (hphase : s.subscription.phase.isTerminal = false)
    (signals : List (Instant × Signal)) :
    WellEnded (s.run signals).updates (s.run signals).ending ∧
      ((s.run signals).ending = none →
        (s.run signals).session.subscription.phase.isTerminal = false) := by
  induction signals generalizing s with
  | nil => exact ⟨.silent rfl, fun _ => hphase⟩
  | cons timed rest ih =>
      obtain ⟨now, signal⟩ := timed
      cases take_outcome hphase now signal with
      | goesOn ending said phase =>
          have hrest := ih phase
          rw [updates_run_cons s now signal rest ending, run_cons s now signal rest ending]
          exact ⟨hrest.1.prepend said, hrest.2⟩
      | announces u said marked last ending ends announced =>
          rw [run_cons_of_ended s now signal ending rest ends, said, ends]
          exact ⟨.last marked last announced, nofun⟩
      | stops said ending ends silent =>
          rw [run_cons_of_ended s now signal ending rest ends, said, ends]
          exact ⟨.silent silent, nofun⟩

end Session

/-! ## Openings -/

namespace Opening

/-- What an opening says is marked; the session is finished after a terminal update, and is in no
terminal phase otherwise. -/
structure IsSound (o : Opening) : Prop where
  finished : o.finished = true → WellEnded (offeredUpdates o.effects) (some .terminal)
  said : o.finished = false → ∀ u ∈ offeredUpdates o.effects, u.Marked ∧ u.terminal = false
  phase : o.finished = false → o.session.subscription.phase.isTerminal = false

end Opening

namespace Subscription

/-- What is handed over when an update is delivered: the update, if it is terminal, and nothing
else in any case. -/
theorem offeredUpdates_deliver {s : Subscription} {u : Update} (h : u.terminal = true) :
    offeredUpdates [Effect.delivery (s.deliver u).2] = [u] := by
  have hoffered : Effect.offered? (.delivery (s.deliver u).2) = some u :=
    s.offered_deliver_of_terminal h
  rw [offeredUpdates, List.filterMap_cons_some hoffered, List.filterMap_nil]

theorem eq_of_mem_offeredUpdates_deliver {s : Subscription} {u v : Update}
    (h : v ∈ offeredUpdates [Effect.delivery (s.deliver u).2]) : v = u := by
  obtain ⟨e, he, hv⟩ := List.mem_filterMap.mp h
  rw [List.mem_singleton.mp he] at hv
  exact eq_of_offered_deliver hv

/-- The first update is marked, and terminal exactly if the phase is. -/
theorem openFirst_update (s : Subscription) (d : Deployment) (now : Instant) :
    (s.openFirst d now).2.update.Marked ∧
      (s.openFirst d now).2.update.terminal = (s.openFirst d now).1.phase.isTerminal := by
  rw [openFirst_eq, deliver_update, deliver_eq]
  exact ⟨Update.marked_ofSnapshot _ _ _, rfl⟩

/-- A first update that is not terminal is all that is said by then. -/
theorem openFirst_said {s : Subscription} {d : Deployment} {now : Instant}
    (going : (s.openFirst d now).2.update.terminal = false) :
    ∀ v ∈ offeredUpdates [Effect.delivery (s.openFirst d now).2],
      v.Marked ∧ v.terminal = false := by
  intro v hv
  have hmarked := (s.openFirst_update d now).1
  rw [openFirst_eq] at going hmarked hv
  rw [deliver_update] at going hmarked
  rw [eq_of_mem_offeredUpdates_deliver hv]
  exact ⟨hmarked, going⟩

/-- Every opening is sound. -/
theorem openWith_isSound {s : Subscription} {d : Deployment} {listed : List Event} {limit : Nat}
    {hearsEvents : Bool} {now : Instant} {o : Opening}
    (h : s.openWith d listed limit hearsEvents now = .ok o) : o.IsSound := by
  cases openWith_starts h with
  | finished seeded newest seeds terminal =>
      have hmarked := (seeded.openFirst_update d now).1
      refine ⟨fun _ => ?_, nofun, nofun⟩
      rw [openFirst_eq] at terminal hmarked ⊢
      rw [deliver_update] at terminal hmarked
      rw [offeredUpdates_deliver terminal]
      exact .last hmarked terminal rfl
  | silent seeded newest seeds going =>
      refine ⟨nofun, fun _ => openFirst_said going, fun _ => ?_⟩
      rw [← (seeded.openFirst_update d now).2]
      exact going
  | replayed seeded e u seeds going evaluates moves =>
      have hmarked := marked_evaluateEvent evaluates
      have hsaid := fun t : Subscription =>
        offeredUpdates_append [.delivery (seeded.openFirst d now).2] [.delivery (t.deliver u).2]
      refine ⟨fun hlast => ?_, fun hon v hv => ?_, fun hon => ?_⟩
      · refine (hsaid _).symm ▸ WellEnded.prepend ?_ (openFirst_said going)
        rw [offeredUpdates_deliver hlast]
        exact .last hmarked hlast rfl
      · rcases List.mem_append.mp (hsaid _ ▸ hv) with hv | hv
        · exact openFirst_said going v hv
        · rw [eq_of_mem_offeredUpdates_deliver hv]
          exact ⟨hmarked, hon⟩
      · rw [deliver_eq]
        show u.phase.isTerminal = false
        rw [← terminal_evaluateEvent evaluates]
        exact hon

/-- An opening keeps the retention of its subscription. -/
theorem openWith_retention {s : Subscription} {d : Deployment} {listed : List Event} {limit : Nat}
    {hearsEvents : Bool} {now : Instant} {o : Opening}
    (h : s.openWith d listed limit hearsEvents now = .ok o) :
    o.session.subscription.scope.window.retention = s.scope.window.retention := by
  have hseeded : ∀ {seeded : Subscription} {result : Except RangeFault (Option Event)},
      s.seed listed limit now = (seeded, result) →
        seeded.scope.window.retention = s.scope.window.retention := by
    intro seeded result seeds
    obtain ⟨scope, hcleared, rfl⟩ := seed_eq seeds
    exact Scope.retention_of_cleared hcleared
  cases openWith_starts h with
  | finished seeded newest seeds terminal =>
      rw [openFirst_scope]
      exact hseeded seeds
  | silent seeded newest seeds going =>
      rw [openFirst_scope]
      exact hseeded seeds
  | replayed seeded e u seeds going evaluates moves =>
      rw [deliver_eq, ← hseeded seeds, ← openFirst_scope seeded d now]

end Subscription

namespace Opening

/-- The stream of a whole session is well ended; and while it goes on its phase is not terminal. -/
theorem run_wellEnded {o : Opening} (ho : o.IsSound) (signals : List (Instant × Signal)) :
    WellEnded (o.run signals).updates (o.run signals).ending ∧
      ((o.run signals).ending = none →
        (o.run signals).session.subscription.phase.isTerminal = false) := by
  cases hfinished : o.finished with
  | true =>
      rw [run_of_finished hfinished]
      exact ⟨ho.finished hfinished, nofun⟩
  | false =>
      obtain ⟨hended, hgoing⟩ := Session.run_wellEnded (ho.phase hfinished) signals
      rw [run_of_going hfinished]
      refine ⟨?_, hgoing⟩
      rw [Reaction.updates, offeredUpdates_append]
      exact hended.prepend (ho.said hfinished)

end Opening

/-! ## Sessions that do not break down -/

namespace Session

/-- How many events a session retains, and how old ones. -/
def retention (s : Session) : Retention :=
  s.subscription.scope.window.retention

/-- A reaction changes nothing about the scope but the events seen, and breaks the session down only
if the cutoff cannot be told. -/
structure Keeps (s : Session) (now : Instant) (r : Reaction) : Prop where
  scope : r.session.subscription.scope.cleared = s.subscription.scope.cleared
  sound : (now.sub? s.retention.age).isSome = true → r.ending ≠ some .aborted

variable {s : Session} {now : Instant}

theorem Keeps.retention {r : Reaction} (h : s.Keeps now r) : r.session.retention = s.retention :=
  Scope.retention_of_cleared h.scope

theorem keeps_say {subscription : Subscription} {before : List Effect} {u : Update}
    {ending : Option Ending} (h : subscription.scope.cleared = s.subscription.scope.cleared)
    (hending : ending ≠ some .aborted) :
    s.Keeps now (s.say subscription before u ending) := by
  refine ⟨?_, fun _ => hending⟩
  show (subscription.deliver u).1.scope.cleared = s.subscription.scope.cleared
  rw [Subscription.deliver_eq]
  exact h

theorem keeps_report {subscription : Subscription} {u : Update}
    (h : subscription.scope.cleared = s.subscription.scope.cleared) :
    s.Keeps now (s.report subscription u) := by
  refine keeps_say h ?_
  split <;> nofun

/-- An event is retained as long as the cutoff can be told. -/
theorem keeps_event (e : Event) : s.Keeps now (s.reactToEvent now (.event e)) := by
  have hcleared := s.subscription.scope.cleared_observe e now
  have h := s.reactToEvent_hears now e
  generalize s.reactToEvent now (.event e) = r at h ⊢
  cases h with
  | brokeDown scope fault observes =>
      rw [observes] at hcleared
      refine ⟨hcleared, fun hcutoff => ?_⟩
      have hok := Scope.observe_ok e hcutoff
      rw [observes] at hok
      cases hok
  | silent scope observes evaluates =>
      rw [observes] at hcleared
      exact ⟨hcleared, fun _ => nofun⟩
  | spoken scope u observes evaluates =>
      rw [observes] at hcleared
      exact keeps_report hcleared

/-- A tick prunes the events as long as the cutoff can be told. -/
theorem keeps_tick : s.Keeps now (s.reactToTick now) := by
  have hcleared := s.subscription.scope.cleared_prune now
  have h := s.reactToTick_ticks now
  generalize s.reactToTick now = r at h ⊢
  cases h with
  | brokeDown scope fault prunes =>
      rw [prunes] at hcleared
      refine ⟨hcleared, fun hcutoff => ?_⟩
      have hok := Scope.prune_ok hcutoff
      rw [prunes] at hok
      cases hok
  | expired scope prunes deadline =>
      rw [prunes] at hcleared
      exact keeps_say hcleared nofun
  | warned scope prunes deadline unwarned warning =>
      rw [prunes] at hcleared
      exact keeps_say hcleared nofun
  | quiet scope prunes deadline early =>
      rw [prunes] at hcleared
      exact ⟨hcleared, fun _ => nofun⟩

/-- Every reaction keeps the scope apart from the events seen. -/
theorem take_keeps (s : Session) (now : Instant) (signal : Signal) :
    s.Keeps now (s.take now signal) := by
  cases signal with
  | cancel => exact ⟨rfl, fun _ => nofun⟩
  | input input =>
      cases input with
      | resource item =>
          cases item with
          | change change =>
              show s.Keeps now (s.report (s.subscription.applyChange change now).1
                (s.subscription.applyChange change now).2)
              refine keeps_report ?_
              unfold Subscription.applyChange
              split <;> rfl
          | error e =>
              show s.Keeps now (s.reactToResource now (.error e))
              unfold reactToResource
              dsimp only
              split
              · exact ⟨rfl, fun _ => nofun⟩
              · exact keeps_say rfl nofun
          | ended => exact keeps_say rfl nofun
      | event item =>
          cases item with
          | event e => exact keeps_event e
          | error e => exact keeps_say rfl nofun
          | ended => exact ⟨rfl, fun _ => nofun⟩
      | tick => exact keeps_tick

/-- No run breaks down as long as every cutoff can be told. -/
theorem run_ne_aborted {signals : List (Instant × Signal)}
    (h : ∀ timed ∈ signals, (timed.1.sub? s.retention.age).isSome = true) :
    (s.run signals).ending ≠ some .aborted := by
  induction signals generalizing s with
  | nil => nofun
  | cons timed rest ih =>
      obtain ⟨now, signal⟩ := timed
      have hkeeps := take_keeps s now signal
      have hnow := h (now, signal) List.mem_cons_self
      cases hending : (s.take now signal).ending with
      | some ending =>
          rw [run_cons_of_ended s now signal ending rest hending]
          exact hkeeps.sound hnow
      | none =>
          rw [run_cons s now signal rest hending]
          refine ih fun timed hmem => ?_
          rw [hkeeps.retention]
          exact h timed (List.mem_cons_of_mem _ hmem)

end Session

namespace Opening

/-- No session breaks down from its opening on as long as every cutoff can be told. -/
theorem run_ne_aborted {o : Opening} {signals : List (Instant × Signal)}
    (h : ∀ timed ∈ signals, (timed.1.sub? o.session.retention.age).isSome = true) :
    (o.run signals).ending ≠ some .aborted := by
  cases hfinished : o.finished with
  | true =>
      rw [run_of_finished hfinished]
      nofun
  | false =>
      rw [run_of_going hfinished]
      exact Session.run_ne_aborted h

end Opening
end ProvisionWatch

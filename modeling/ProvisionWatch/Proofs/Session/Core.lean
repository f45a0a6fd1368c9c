import ProvisionWatch.Proofs.Session.Endings

/-!
# The core of a session

What events leave behind in a session are retained events, a phase and what was
said last.  The rest of it is its core.  As long as no rule maps an event to a
terminal phase, an event leaves the core alone, and any other signal does the
same to sessions with one core, up to the phase that the monitor carries along
in a farewell.

Main results:

- Theorem `take_event_agrees`: an event leaves the core as it is.
- Theorem `take_own_agrees`: any other signal treats sessions with one core alike.
- Theorem `take_own_undecided`: a session that goes on is still undecided.
-/

namespace ProvisionWatch

/-! ## Own signals -/

/-- A signal that comes from the stream of events. -/
def Signal.isOfEvents : Signal → Bool
  | .input (.event _) => true
  | .cancel | .input (.resource _) | .input .tick => false

/-- The signals that do not come from the stream of events, with their readings. -/
def ownSignals (signals : List (Instant × Signal)) : List (Instant × Signal) :=
  signals.filter fun timed => !timed.2.isOfEvents

theorem Signal.eq_of_isOfEvents {signal : Signal} (h : signal.isOfEvents = true) :
    ∃ item, signal = .input (.event item) := by
  cases signal with
  | cancel => cases h
  | input input =>
      cases input with
      | event item => exact ⟨item, rfl⟩
      | resource | tick => cases h

theorem ownSignals_cons_of_events {now : Instant} {signal : Signal}
    {rest : List (Instant × Signal)} (h : signal.isOfEvents = true) :
    ownSignals ((now, signal) :: rest) = ownSignals rest :=
  List.filter_cons_of_neg (by simp [h])

theorem ownSignals_cons_of_own {now : Instant} {signal : Signal}
    {rest : List (Instant × Signal)} (h : signal.isOfEvents = false) :
    ownSignals ((now, signal) :: rest) = (now, signal) :: ownSignals rest :=
  List.filter_cons_of_pos (by simp [h])

theorem ownSignals_snoc_of_own {before : List (Instant × Signal)} {timed : Instant × Signal}
    (h : timed.2.isOfEvents = false) :
    ownSignals (before ++ [timed]) = ownSignals before ++ [timed] := by
  rw [ownSignals, List.filter_append, List.filter_cons_of_pos (by simp [h]), List.filter_nil]
  rfl

/-! ## Cores -/

/-- A subscription without what events leave behind. -/
def Subscription.core (s : Subscription) : Subscription :=
  { s with scope := s.scope.cleared, phase := .unknown, lastSaid := none }

/-- What a scope observes leaves the core as it is. -/
theorem Subscription.core_of_cleared {s : Subscription} {scope : Scope}
    (h : scope.cleared = s.scope.cleared) :
    ({ s with scope := scope } : Subscription).core = s.core := by
  unfold core
  dsimp only
  rw [h]

/-- A session without what events leave behind. -/
def Session.core (s : Session) : Session :=
  { subscription := s.subscription.core, hearsEvents := false }

/-- Sessions of subscriptions with one core have one core. -/
theorem Session.core_eq {s t : Session} (h : s.subscription.core = t.subscription.core) :
    s.core = t.core :=
  congrArg (fun core => ({ subscription := core, hearsEvents := false } : Session)) h

namespace Update

instance (u : Update) : Decidable u.IsFarewell :=
  inferInstanceAs (Decidable (u.source = .system ∧ u.reason ∈ farewellReasons))

/-- An update; of a farewell, all but its phase. -/
def essence (u : Update) : Update :=
  if u.IsFarewell then { u with phase := .unknown } else u

/-- Two last updates are the same, or are farewells that differ in the phase. -/
def SameLast (u v : Update) : Prop :=
  u = { v with phase := u.phase } ∧ (u.phase ≠ v.phase → u.IsFarewell ∧ v.IsFarewell)

/-- Updates with one essence differ in the phase of a farewell at most. -/
theorem sameLast_of_essence {u v : Update} (h : u.essence = v.essence) : u.SameLast v := by
  unfold essence at h
  by_cases hu : u.IsFarewell
  · by_cases hv : v.IsFarewell
    · rw [if_pos hu, if_pos hv] at h
      refine ⟨?_, fun _ => ⟨hu, hv⟩⟩
      have hback := congrArg (fun w : Update => { w with phase := u.phase }) h
      exact hback
    · rw [if_pos hu, if_neg hv] at h
      exact absurd (h ▸ hu) hv
  · by_cases hv : v.IsFarewell
    · rw [if_neg hu, if_pos hv] at h
      exact absurd (h ▸ hv) hu
    · rw [if_neg hu, if_neg hv] at h
      rw [h]
      exact ⟨rfl, fun hne => absurd rfl hne⟩

end Update

/-- The last words among updates: those that are terminal, apart from the phases of farewells. -/
def lastWords (updates : List Update) : List Update :=
  (updates.filter Update.terminal).map Update.essence

@[simp]
theorem lastWords_append (before later : List Update) :
    lastWords (before ++ later) = lastWords before ++ lastWords later := by
  rw [lastWords, List.filter_append, List.map_append]
  rfl

theorem lastWords_eq_nil {updates : List Update} (h : ∀ u ∈ updates, u.terminal = false) :
    lastWords updates = [] := by
  rw [lastWords, List.filter_eq_nil_iff.mpr, List.map_nil]
  intro u hu
  rw [h u hu]
  exact Bool.false_ne_true

/-- Two reactions agree on all that is not the events' affair. -/
structure Reaction.Agrees (r r' : Reaction) : Prop where
  ending : r.ending = r'.ending
  core : r.session.core = r'.session.core
  lastWords : lastWords r.updates = lastWords r'.updates

namespace Subscription

/-- A farewell without its phase is that of the core. -/
theorem essence_farewell (s : Subscription) (message : String) {reason : String}
    (severity : Severity) (now : Instant) (hreason : reason ∈ Update.farewellReasons) :
    (s.notice message reason severity now).ending.essence =
      (s.core.notice message reason severity now).ending := by
  have hfarewell : (s.notice message reason severity now).ending.IsFarewell :=
    isFarewell_notice message now hreason
  rw [Update.essence, if_pos hfarewell]
  unfold notice
  show _ = Update.ending (Update.withSnapshot? _ s.lastSnapshot)
  cases s.lastSnapshot <;> rfl

end Subscription

/-! ## Decided snapshots -/

namespace Snapshot

/-- The deployment is ready or has failed, whatever the events say. -/
def isDecided (s : Snapshot) : Bool :=
  s.hasFailed || s.reached .ready

/-- The snapshot alone decides whether a classification is terminal. -/
@[simp]
theorem isTerminal_classify (s : Snapshot) (events : List Event) :
    (s.classify events).isTerminal = s.isDecided := by
  unfold classify isDecided
  cases s.hasFailed with
  | true => rfl
  | false =>
      cases s.reached .ready with
      | true => rfl
      | false =>
          simp only [Bool.false_eq_true, if_false, Bool.or_self]
          repeat' split
          all_goals rfl

/-- A decided snapshot leaves nothing to the events. -/
theorem classify_of_isDecided {s : Snapshot} (h : s.isDecided = true) (events : List Event) :
    s.classify events = s.classify [] := by
  unfold isDecided at h
  unfold classify
  cases hfailed : s.hasFailed with
  | true => rfl
  | false =>
      rw [hfailed, Bool.false_or] at h
      simp only [h, if_true]

end Snapshot

@[simp]
theorem Update.terminal_ofSnapshot (s : Snapshot) (events : List Event) (now : Instant) :
    (Update.ofSnapshot s events now).terminal = s.isDecided :=
  s.isTerminal_classify events

theorem Update.ofSnapshot_of_isDecided {s : Snapshot} (h : s.isDecided = true)
    (events : List Event) (now : Instant) :
    Update.ofSnapshot s events now = Update.ofSnapshot s [] now := by
  unfold Update.ofSnapshot
  rw [Snapshot.classify_of_isDecided h]

/-! ## Sessions that are undecided -/

namespace Session

/-- While a session goes on its last snapshot is not decided, no rule is terminal, and it retains
events by its settings. -/
structure Undecided (kept : Retention) (s : Session) : Prop where
  snapshot : ∃ snapshot, s.subscription.lastSnapshot = some snapshot ∧ snapshot.isDecided = false
  rules : ∀ rule ∈ s.subscription.scope.rules, rule.phase.isTerminal = false
  retention : s.retention = kept

variable {kept : Retention} {s t : Session} {now : Instant}

/-- The core alone tells whether a session is undecided. -/
theorem Undecided.of_core (h : s.Undecided kept) (hcore : s.core = t.core) :
    t.Undecided kept := by
  have hsnapshot : s.subscription.lastSnapshot = t.subscription.lastSnapshot :=
    congrArg (fun core => core.subscription.lastSnapshot) hcore
  have hrules : s.subscription.scope.rules = t.subscription.scope.rules :=
    congrArg (fun core => core.subscription.scope.rules) hcore
  have hretention : s.retention = t.retention :=
    congrArg (fun core => core.subscription.scope.window.retention) hcore
  obtain ⟨snapshot, rules, retention⟩ := h
  rw [hsnapshot] at snapshot
  rw [hrules] at rules
  rw [hretention] at retention
  exact ⟨snapshot, rules, retention⟩

theorem Undecided.cutoff (h : s.Undecided kept) (hnow : (now.sub? kept.age).isSome = true) :
    (now.sub? s.subscription.scope.window.retention.age).isSome = true := by
  rw [← h.retention] at hnow
  exact hnow

/-- The core of a session that says something is that of the subscription that says it. -/
@[simp]
theorem core_say (subscription : Subscription) (before : List Effect) (u : Update)
    (ending : Option Ending) :
    (s.say subscription before u ending).session.core =
      ({ s with subscription := subscription } : Session).core := by
  refine core_eq ?_
  show (subscription.deliver u).1.core = subscription.core
  rw [Subscription.deliver_eq]
  rfl

/-! ## Events -/

/-- While a session is undecided, no event has a last word. -/
theorem going_evaluateEvent (h : s.Undecided kept) {e : Event} {u : Update}
    (hu : s.subscription.evaluateEvent e now = some u) : u.terminal = false := by
  obtain ⟨snapshot, hsnapshot, hundecided⟩ := h.snapshot
  have hclassified : ((s.subscription.lastSnapshot.getD .blank).classify
      (s.subscription.scope.covered ++ [e])).isTerminal = false := by
    rw [hsnapshot, Option.getD_some, Snapshot.isTerminal_classify, hundecided]
  obtain ⟨rule, hrule, hphase⟩ :=
    Subscription.evaluateEvent_phase s.subscription e now hu hclassified
  rw [Subscription.terminal_evaluateEvent hu, hphase]
  exact h.rules rule (List.mem_of_find?_eq_some hrule)

theorem lastWords_say_on {subscription : Subscription} {before : List Effect} {u : Update}
    (hbefore : offeredUpdates before = []) (going : u.terminal = false) (ending : Option Ending) :
    lastWords (s.say subscription before u ending).updates = [] := by
  refine lastWords_eq_nil fun v hv => ?_
  rw [updates_say hbefore, Option.mem_toList] at hv
  rw [Subscription.eq_of_offered_deliver hv]
  exact going

/-- An event leaves the core as it is, and neither ends the session nor has a last word. -/
theorem take_event_agrees (h : s.Undecided kept) (hnow : (now.sub? kept.age).isSome = true)
    (item : EventItem) :
    (s.take now (.input (.event item))).Agrees s.idle := by
  cases item with
  | event e =>
      have hcleared := s.subscription.scope.cleared_observe e now
      have hok := Scope.observe_ok e (h.cutoff hnow)
      have hhears := s.reactToEvent_hears now e
      show (s.reactToEvent now (.event e)).Agrees s.idle
      generalize s.reactToEvent now (.event e) = r at hhears ⊢
      cases hhears with
      | brokeDown scope fault observes =>
          rw [observes] at hok
          cases hok
      | silent scope observes evaluates =>
          rw [observes] at hcleared
          exact ⟨rfl, core_eq (Subscription.core_of_cleared hcleared), rfl⟩
      | spoken scope u observes evaluates =>
          rw [observes] at hcleared
          have hgoing := going_evaluateEvent h evaluates
          refine ⟨?_, ?_, ?_⟩
          · rw [report, hgoing]
            rfl
          · rw [report, core_say]
            exact core_eq (Subscription.core_of_cleared hcleared)
          · rw [report, lastWords_say_on rfl hgoing]
            rfl
  | error e =>
      refine ⟨rfl, core_say _ _ _ _, ?_⟩
      exact (lastWords_say_on rfl (Subscription.notice_terminal _ _ _ _ now) none)
  | ended => exact ⟨rfl, rfl, rfl⟩

/-! ## Own signals -/

section Agreeing

variable {subscription subscription' : Subscription} {before before' : List Effect} {u u' : Update}

/-- Two sessions with one core that have the same last word agree. -/
theorem agrees_say_last (hbefore : offeredUpdates before = [])
    (hbefore' : offeredUpdates before' = [])
    (hcore : subscription.core = subscription'.core) (last : u.terminal = true)
    (last' : u'.terminal = true) (hessence : u.essence = u'.essence) (ending : Option Ending) :
    (s.say subscription before u ending).Agrees (t.say subscription' before' u' ending) := by
  refine ⟨rfl, ?_, ?_⟩
  · rw [core_say, core_say]
    exact core_eq hcore
  · rw [updates_say hbefore, updates_say hbefore', Subscription.offered_deliver_of_terminal _ last,
      Subscription.offered_deliver_of_terminal _ last']
    simp only [lastWords, Option.toList_some, List.filter_cons, last, last', if_true,
      List.filter_nil, List.map_cons, List.map_nil, hessence]

/-- Two sessions with one core that say something and go on agree. -/
theorem agrees_say_on (hbefore : offeredUpdates before = [])
    (hbefore' : offeredUpdates before' = [])
    (hcore : subscription.core = subscription'.core) (going : u.terminal = false)
    (going' : u'.terminal = false) (ending : Option Ending) :
    (s.say subscription before u ending).Agrees (t.say subscription' before' u' ending) := by
  refine ⟨rfl, ?_, ?_⟩
  · rw [core_say, core_say]
    exact core_eq hcore
  · rw [lastWords_say_on hbefore going, lastWords_say_on hbefore' going']

end Agreeing

/-- Sessions with one core say the same farewell, apart from its phase. -/
theorem agrees_farewell {subscription subscription' : Subscription} {before before' : List Effect}
    (hbefore : offeredUpdates before = []) (hbefore' : offeredUpdates before' = [])
    (hcore : subscription.core = subscription'.core) (message : String) {reason : String}
    (severity : Severity) (now : Instant) (hreason : reason ∈ Update.farewellReasons)
    (ending : Option Ending) :
    (s.say subscription before (subscription.notice message reason severity now).ending
      ending).Agrees
      (t.say subscription' before' (subscription'.notice message reason severity now).ending
        ending) := by
  refine agrees_say_last hbefore hbefore' hcore rfl rfl ?_ ending
  rw [Subscription.essence_farewell _ _ _ _ hreason, Subscription.essence_farewell _ _ _ _ hreason,
    hcore]

/-- Sessions with one core take in a snapshot alike. -/
theorem agrees_snapshot (hcore : s.subscription.core = t.subscription.core) (snapshot : Snapshot)
    (now : Instant) (phase phase' : Phase) (events events' : List Event) :
    (s.report { s.subscription.withSnapshot snapshot now with phase := phase }
      (.ofSnapshot snapshot events now)).Agrees
      (t.report { t.subscription.withSnapshot snapshot now with phase := phase' }
        (.ofSnapshot snapshot events' now)) := by
  have hcores : ({ s.subscription.withSnapshot snapshot now with
      phase := phase } : Subscription).core = ({ t.subscription.withSnapshot snapshot now with
      phase := phase' } : Subscription).core := by
    show s.subscription.core.withSnapshot snapshot now =
      t.subscription.core.withSnapshot snapshot now
    rw [hcore]
  unfold report
  rw [Update.terminal_ofSnapshot, Update.terminal_ofSnapshot]
  cases hdecided : snapshot.isDecided with
  | true =>
      rw [Update.ofSnapshot_of_isDecided hdecided events,
        Update.ofSnapshot_of_isDecided hdecided events']
      have hlast := (Update.terminal_ofSnapshot snapshot [] now).trans hdecided
      exact agrees_say_last rfl rfl hcores hlast hlast rfl _
  | false =>
      exact agrees_say_on rfl rfl hcores ((Update.terminal_ofSnapshot _ _ _).trans hdecided)
        ((Update.terminal_ofSnapshot _ _ _).trans hdecided) _

/-- Sessions with one core take in an item of the stream of changes alike. -/
theorem agrees_resource (hcore : s.subscription.core = t.subscription.core) (item : ResourceItem)
    (now : Instant) : (s.reactToResource now item).Agrees (t.reactToResource now item) := by
  cases item with
  | change change =>
      obtain ⟨d, kind⟩ := change
      cases kind with
      | added | modified => exact agrees_snapshot hcore d.snapshot now _ _ _ _
      | deleted =>
          have htarget : s.subscription.target = t.subscription.target :=
            congrArg (fun core => core.scope.target) hcore
          show (s.say s.subscription [] (s.subscription.deletedNotice now)
            (some .terminal)).Agrees
              (t.say t.subscription [] (t.subscription.deletedNotice now) (some .terminal))
          unfold Subscription.deletedNotice
          rw [htarget]
          exact agrees_farewell rfl rfl hcore _ _ now (by decide) _
  | error e =>
      unfold reactToResource
      dsimp only
      split
      · exact ⟨rfl, core_eq hcore, rfl⟩
      · exact agrees_farewell rfl rfl hcore _ _ now (by decide) _
  | ended => exact agrees_farewell rfl rfl hcore _ _ now (by decide) _

/-- Looking at subscriptions with one core leaves them with one core. -/
theorem core_lookedAt {subscription subscription' : Subscription}
    (hcore : subscription.core = subscription'.core) {scope scope' : Scope}
    (hscope : scope.cleared = subscription.scope.cleared)
    (hscope' : scope'.cleared = subscription'.scope.cleared) (now : Instant) :
    (subscription.lookedAt scope now).core = (subscription'.lookedAt scope' now).core := by
  have hlooked : ∀ (r : Subscription) (scope : Scope), scope.cleared = r.scope.cleared →
      (r.lookedAt scope now).core = r.core.lookedAt r.core.scope now := by
    intro r scope h
    show ({ r.core.lookedAt scope.cleared now with scope := scope.cleared } : Subscription) = _
    rw [h]
    rfl
  rw [hlooked _ scope hscope, hlooked _ scope' hscope', hcore]

/-- Sessions with one core take a tick alike. -/
theorem agrees_tick (hcore : s.subscription.core = t.subscription.core) (now : Instant)
    (hcutoff : (now.sub? s.subscription.scope.window.retention.age).isSome = true) :
    (s.reactToTick now).Agrees (t.reactToTick now) := by
  have hretention : s.subscription.scope.window.retention =
      t.subscription.scope.window.retention :=
    congrArg (fun core => core.scope.window.retention) hcore
  have hok := Scope.prune_ok hcutoff
  have hok' := Scope.prune_ok (hretention ▸ hcutoff)
  have hscope := s.subscription.scope.cleared_prune now
  have hscope' := t.subscription.scope.cleared_prune now
  rcases hprune : s.subscription.scope.prune now with ⟨scope, result⟩
  rcases hprune' : t.subscription.scope.prune now with ⟨scope', result'⟩
  rw [hprune] at hok hscope
  rw [hprune'] at hok' hscope'
  obtain rfl : result = .ok () := hok
  obtain rfl : result' = .ok () := hok'
  have hlooked := core_lookedAt hcore hscope hscope' now
  have hdeadline : s.subscription.deadline = t.subscription.deadline :=
    congrArg (fun core => core.deadline) hcore
  have hwarned : s.subscription.warned = t.subscription.warned :=
    congrArg (fun core => core.warned) hcore
  have hwarning : s.subscription.warningTime = t.subscription.warningTime :=
    congrArg (fun core => core.warningTime) hcore
  have hstalls : s.subscription.stallsAt now = t.subscription.stallsAt now :=
    congrArg (fun core => core.stallsAt now) hcore
  rw [reactToTick_eq hprune, reactToTick_eq hprune', hdeadline, hwarned, hwarning, hstalls]
  have hseen := offeredUpdates_stallEffects (t.subscription.stallsAt now)
  split
  · have htimeout : (s.subscription.lookedAt scope now).timeout =
        (t.subscription.lookedAt scope' now).timeout :=
      congrArg (fun core => core.timeout) hlooked
    unfold Subscription.expiredNotice
    rw [htimeout]
    exact agrees_farewell hseen hseen hlooked _ _ now (by decide) _
  · split
    · have hwarnedNow := congrArg (fun core : Subscription => { core with warned := true }) hlooked
      exact agrees_say_on hseen hseen hwarnedNow (Subscription.notice_terminal _ _ _ _ now)
        (Subscription.notice_terminal _ _ _ _ now) none
    · exact ⟨rfl, core_eq hlooked, rfl⟩

/-- Sessions with one core take every signal alike that is not of their events. -/
theorem take_own_agrees (h : s.Undecided kept) (hcore : s.core = t.core)
    (hnow : (now.sub? kept.age).isSome = true) {signal : Signal}
    (hown : signal.isOfEvents = false) : (s.take now signal).Agrees (t.take now signal) := by
  have hsubscription : s.subscription.core = t.subscription.core :=
    congrArg Session.subscription hcore
  cases signal with
  | cancel => exact ⟨rfl, hcore, rfl⟩
  | input input =>
      cases input with
      | resource item => exact agrees_resource hsubscription item now
      | event item => cases hown
      | tick => exact agrees_tick hsubscription now (h.cutoff hnow)

@[simp]
theorem lastSnapshot_say (subscription : Subscription) (before : List Effect) (u : Update)
    (ending : Option Ending) :
    (s.say subscription before u ending).session.subscription.lastSnapshot =
      subscription.lastSnapshot := by
  show (subscription.deliver u).1.lastSnapshot = subscription.lastSnapshot
  rw [Subscription.deliver_eq]

/-- After a change that does not end the session, the snapshot is the new one, and undecided. -/
theorem snapshot_of_change (s : Session) (now : Instant) (change : Change)
    (hgoing : (s.reactToResource now (.change change)).ending = none) :
    (s.reactToResource now (.change change)).session.subscription.lastSnapshot =
        some change.deployment.snapshot ∧
      change.deployment.snapshot.isDecided = false := by
  obtain ⟨d, kind⟩ := change
  cases kind with
  | deleted => cases hgoing
  | added | modified =>
      have hending : (if (Update.ofSnapshot d.snapshot s.subscription.scope.covered now).terminal
          then some Ending.terminal else none) = none := hgoing
      rw [Update.terminal_ofSnapshot] at hending
      refine ⟨lastSnapshot_say _ _ _ _, ?_⟩
      cases hdecided : d.snapshot.isDecided with
      | false => rfl
      | true =>
          rw [hdecided] at hending
          cases hending

/-- What a session knows about the deployment stays undecided while it takes signals of its own
and goes on. -/
theorem snapshot_of_own (h : s.Undecided kept) {signal : Signal}
    (hown : signal.isOfEvents = false) (hgoing : (s.take now signal).ending = none) :
    ∃ snapshot, (s.take now signal).session.subscription.lastSnapshot = some snapshot ∧
      snapshot.isDecided = false := by
  cases signal with
  | cancel => cases hgoing
  | input input =>
      cases input with
      | event item => cases hown
      | resource item =>
          cases item with
          | change change => exact ⟨_, s.snapshot_of_change now change hgoing⟩
          | error e =>
              show ∃ snapshot,
                (s.reactToResource now (.error e)).session.subscription.lastSnapshot =
                  some snapshot ∧ snapshot.isDecided = false
              unfold reactToResource
              dsimp only
              split
              · exact h.snapshot
              · rw [lastSnapshot_say]
                exact h.snapshot
          | ended => cases hgoing
      | tick =>
          have hticks := s.reactToTick_ticks now
          show ∃ snapshot, (s.reactToTick now).session.subscription.lastSnapshot =
            some snapshot ∧ snapshot.isDecided = false
          generalize s.reactToTick now = r at hticks ⊢
          cases hticks with
          | brokeDown scope fault prunes => exact h.snapshot
          | expired scope prunes deadline | warned scope prunes deadline unwarned warning =>
              rw [lastSnapshot_say]
              exact h.snapshot
          | quiet scope prunes deadline early => exact h.snapshot

/-- A session that goes on after a signal of its own is still undecided. -/
theorem take_own_undecided (h : s.Undecided kept) {signal : Signal}
    (hown : signal.isOfEvents = false) (hgoing : (s.take now signal).ending = none) :
    (s.take now signal).session.Undecided kept := by
  have hkeeps := take_keeps s now signal
  have hrules : (s.take now signal).session.subscription.scope.rules =
      s.subscription.scope.rules :=
    congrArg (fun scope => scope.rules) hkeeps.scope
  refine ⟨snapshot_of_own h hown hgoing, ?_, hkeeps.retention.trans h.retention⟩
  rw [hrules]
  exact h.rules

end Session
end ProvisionWatch

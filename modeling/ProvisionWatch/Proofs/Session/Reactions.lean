import ProvisionWatch.Session.Run

/-!
# What a session does with each input

The reactions of a session, case by case.  Retaining an event or pruning the
window can fail, an event may have nothing to say, and the deadline may have
come or be near; each case says under which condition it occurs and what the
reaction is then.

Main results:

- Theorem `reactToEvent_hears`: what an event can bring about.
- Theorem `reactToTick_ticks`: what a tick can bring about.
- Theorem `openWith_starts`: how a session can open.
-/

namespace ProvisionWatch

/-! ## Windows -/

namespace Window

/-- The window without its events. -/
def cleared (w : Window) : Window :=
  { w with events := [] }

/-- Pruning changes only the events. -/
@[simp]
theorem cleared_prune (w : Window) (now : Instant) : (w.prune now).1.cleared = w.cleared := by
  unfold prune
  split <;> rfl

/-- Pruning works as long as the cutoff can be told. -/
theorem prune_ok {w : Window} {now : Instant} (h : (now.sub? w.retention.age).isSome = true) :
    (w.prune now).2 = .ok () := by
  obtain ⟨cutoff, hcutoff⟩ := Option.isSome_iff_exists.mp h
  rw [prune, hcutoff]

end Window

namespace Scope

/-- The scope without the events seen. -/
def cleared (s : Scope) : Scope :=
  { s with window := s.window.cleared }

@[simp]
theorem cleared_observe (s : Scope) (e : Event) (now : Instant) :
    (s.observe e now).1.cleared = s.cleared := by
  show ({ s with window := (s.window.push e now).1.cleared } : Scope) = s.cleared
  rw [Window.push, Window.cleared_prune]
  rfl

theorem observe_ok {s : Scope} (e : Event) {now : Instant}
    (h : (now.sub? s.window.retention.age).isSome = true) : (s.observe e now).2 = .ok () :=
  Window.prune_ok (w := { s.window with events := s.window.events ++ [e] }) h

@[simp]
theorem cleared_prune (s : Scope) (now : Instant) : (s.prune now).1.cleared = s.cleared := by
  show ({ s with window := (s.window.prune now).1.cleared } : Scope) = s.cleared
  rw [Window.cleared_prune]
  rfl

theorem prune_ok {s : Scope} {now : Instant}
    (h : (now.sub? s.window.retention.age).isSome = true) : (s.prune now).2 = .ok () :=
  Window.prune_ok h

/-- A scope that differs in its events only retains as many, and as old ones. -/
theorem retention_of_cleared {s t : Scope} (h : s.cleared = t.cleared) :
    s.window.retention = t.window.retention :=
  congrArg (fun scope => scope.window.retention) h

end Scope

/-! ## Subscriptions -/

namespace Subscription

/-- Delivering an update only changes what was said last. -/
theorem deliver_eq (s : Subscription) (u : Update) :
    (s.deliver u).1 = { s with lastSaid := some u.said } := by
  unfold deliver
  split
  · rfl
  · rename_i hrepeats
    have hsaid := s.deliver_lastSaid u
    rw [deliver, if_neg hrepeats] at hsaid
    rw [← hsaid]

@[simp]
theorem deliver_update (s : Subscription) (u : Update) : (s.deliver u).2.update = u := by
  unfold deliver
  split <;> rfl

/-- Only the update itself is ever handed over. -/
theorem eq_of_offered_deliver {s : Subscription} {u v : Update}
    (h : (s.deliver u).2.offered? = some v) : v = u := by
  unfold deliver at h
  split at h
  · exact (Option.some.inj h).symm
  · cases h

/-- A terminal update is always handed over. -/
theorem offered_deliver_of_terminal (s : Subscription) {u : Update} (h : u.terminal = true) :
    (s.deliver u).2.offered? = some u := by
  have hoffer : s.shouldOffer u = true := (s.shouldOffer_iff u).mpr (.inl h)
  rw [deliver, if_pos hoffer]
  rfl

/-- What was not said last is handed over. -/
theorem deliver_of_ne {s : Subscription} {u : Update} (h : s.lastSaid ≠ some u.said) :
    s.deliver u = (s.recordSaid u, .offered u) := by
  rw [deliver, if_pos ((s.shouldOffer_iff u).mpr (.inr h))]

/-- An event's update is terminal exactly if its phase is. -/
theorem terminal_evaluateEvent {s : Subscription} {e : Event} {now : Instant} {u : Update}
    (h : s.evaluateEvent e now = some u) : u.terminal = u.phase.isTerminal := by
  obtain ⟨evaluation, -, rfl⟩ := Option.map_eq_some_iff.mp h
  rfl

/-- The subscription after a tick has pruned the window and looked for a stall. -/
def lookedAt (s : Subscription) (scope : Scope) (now : Instant) : Subscription :=
  { s with scope := scope, stallReported := s.stallReported || s.stallsAt now }

/-- What a tick comes to once the window is pruned. -/
theorem tick_eq {s : Subscription} {scope : Scope} {now : Instant}
    (prunes : s.scope.prune now = (scope, .ok ())) :
    s.tick now = (((s.lookedAt scope now).checkDeadline now).1,
      .ok { outcome := ((s.lookedAt scope now).checkDeadline now).2
            stalled := s.stallsAt now }) := by
  simp only [tick, prunes]
  rfl

/-- A tick that cannot prune the window leaves all else as it is. -/
theorem tick_of_fault {s : Subscription} {scope : Scope} {now : Instant} {fault : RangeFault}
    (prunes : s.scope.prune now = (scope, .error fault)) :
    s.tick now = ({ s with scope := scope }, .error fault) := by
  simp only [tick, prunes]

end Subscription

/-! ## Events and ticks -/

namespace Session

/-- What an event brings about. -/
inductive Hears (s : Session) (now : Instant) (e : Event) : Reaction → Prop where
  /-- The event cannot be retained. -/
  | brokeDown (scope : Scope) (fault : RangeFault)
      (observes : s.subscription.scope.observe e now = (scope, .error fault)) :
      Hears s now e (s.breakDown { s.subscription with scope := scope })
  /-- The event has nothing to say. -/
  | silent (scope : Scope) (observes : s.subscription.scope.observe e now = (scope, .ok ()))
      (evaluates : s.subscription.evaluateEvent e now = none) :
      Hears s now e
        ({ s with subscription := { s.subscription with scope := scope } } : Session).idle
  /-- The event speaks. -/
  | spoken (scope : Scope) (u : Update)
      (observes : s.subscription.scope.observe e now = (scope, .ok ()))
      (evaluates : s.subscription.evaluateEvent e now = some u) :
      Hears s now e (s.report { s.subscription with scope := scope, phase := u.phase } u)

theorem reactToEvent_of_fault {s : Session} {now : Instant} {e : Event} {scope : Scope}
    {fault : RangeFault} (observes : s.subscription.scope.observe e now = (scope, .error fault)) :
    s.reactToEvent now (.event e) = s.breakDown { s.subscription with scope := scope } := by
  simp only [reactToEvent, Subscription.applyEvent, observes]

/-- Once an event is retained, what it says decides what it brings about. -/
theorem reactToEvent_of_retained {s : Session} {now : Instant} {e : Event} {scope : Scope}
    (observes : s.subscription.scope.observe e now = (scope, .ok ())) :
    s.reactToEvent now (.event e) =
      match s.subscription.evaluateEvent e now with
      | none => ({ s with subscription := { s.subscription with scope := scope } } : Session).idle
      | some u => s.report { s.subscription with scope := scope, phase := u.phase } u := by
  cases hu : s.subscription.evaluateEvent e now <;>
    simp only [reactToEvent, Subscription.applyEvent, observes, hu, Subscription.inPhaseOf]

theorem reactToEvent_hears (s : Session) (now : Instant) (e : Event) :
    s.Hears now e (s.reactToEvent now (.event e)) := by
  rcases hobserve : s.subscription.scope.observe e now with ⟨scope, result⟩
  cases result with
  | error fault => exact reactToEvent_of_fault hobserve ▸ .brokeDown scope fault hobserve
  | ok =>
      rw [reactToEvent_of_retained hobserve]
      cases hu : s.subscription.evaluateEvent e now with
      | none => exact .silent scope hobserve hu
      | some u => exact .spoken scope u hobserve hu

/-- The effects of a tick that found a stall, or found none. -/
def stallEffects (stalled : Bool) : List Effect :=
  if stalled then [.stall] else []

/-- What a tick brings about. -/
inductive Ticks (s : Session) (now : Instant) : Reaction → Prop where
  /-- The window cannot be pruned. -/
  | brokeDown (scope : Scope) (fault : RangeFault)
      (prunes : s.subscription.scope.prune now = (scope, .error fault)) :
      Ticks s now (s.breakDown { s.subscription with scope := scope })
  /-- The deadline has come. -/
  | expired (scope : Scope) (prunes : s.subscription.scope.prune now = (scope, .ok ()))
      (deadline : s.subscription.deadline ≤ now) :
      Ticks s now
        (s.say (s.subscription.lookedAt scope now) (stallEffects (s.subscription.stallsAt now))
          ((s.subscription.lookedAt scope now).expiredNotice now) (some .timeout))
  /-- The deadline is near. -/
  | warned (scope : Scope) (prunes : s.subscription.scope.prune now = (scope, .ok ()))
      (deadline : ¬ s.subscription.deadline ≤ now) (unwarned : s.subscription.warned = false)
      (warning : s.subscription.warningTime ≤ now) :
      Ticks s now
        (s.say { s.subscription.lookedAt scope now with warned := true }
          (stallEffects (s.subscription.stallsAt now))
          ((s.subscription.lookedAt scope now).warningNotice now) none)
  /-- There is nothing to say about the deadline. -/
  | quiet (scope : Scope) (prunes : s.subscription.scope.prune now = (scope, .ok ()))
      (deadline : ¬ s.subscription.deadline ≤ now)
      (early : s.subscription.warned = true ∨ ¬ s.subscription.warningTime ≤ now) :
      Ticks s now
        { session := { s with subscription := s.subscription.lookedAt scope now }
          effects := stallEffects (s.subscription.stallsAt now)
          ending := none }

/-- Once the window is pruned, the deadline alone decides what a tick brings about. -/
theorem reactToTick_eq {s : Session} {now : Instant} {scope : Scope}
    (prunes : s.subscription.scope.prune now = (scope, .ok ())) :
    s.reactToTick now =
      if s.subscription.deadline ≤ now then
        s.say (s.subscription.lookedAt scope now) (stallEffects (s.subscription.stallsAt now))
          ((s.subscription.lookedAt scope now).expiredNotice now) (some .timeout)
      else if s.subscription.warned = false ∧ s.subscription.warningTime ≤ now then
        s.say { s.subscription.lookedAt scope now with warned := true }
          (stallEffects (s.subscription.stallsAt now))
          ((s.subscription.lookedAt scope now).warningNotice now) none
      else
        { session := { s with subscription := s.subscription.lookedAt scope now }
          effects := stallEffects (s.subscription.stallsAt now)
          ending := none } := by
  have hcheck : (s.subscription.lookedAt scope now).checkDeadline now =
      if s.subscription.deadline ≤ now then
        (s.subscription.lookedAt scope now,
          .expired ((s.subscription.lookedAt scope now).expiredNotice now))
      else if !s.subscription.warned && s.subscription.warningTime ≤ now then
        ({ s.subscription.lookedAt scope now with warned := true },
          .warning ((s.subscription.lookedAt scope now).warningNotice now))
      else
        (s.subscription.lookedAt scope now, .carryOn) :=
    rfl
  simp only [reactToTick, Subscription.tick_eq prunes, hcheck]
  by_cases hdeadline : s.subscription.deadline ≤ now
  · simp only [hdeadline, if_true]
    rfl
  · by_cases hwarning : s.subscription.warned = false ∧ s.subscription.warningTime ≤ now
    · simp only [hdeadline, if_false, hwarning.1, hwarning.2, Bool.not_false, Bool.true_and,
        decide_true, if_true, and_self]
      rfl
    · have hearly :
          (!s.subscription.warned && decide (s.subscription.warningTime ≤ now)) = false := by
        simpa using hwarning
      simp only [hdeadline, if_false, hearly, hwarning, Bool.false_eq_true]
      rfl

theorem reactToTick_of_fault {s : Session} {now : Instant} {scope : Scope} {fault : RangeFault}
    (prunes : s.subscription.scope.prune now = (scope, .error fault)) :
    s.reactToTick now = s.breakDown { s.subscription with scope := scope } := by
  simp only [reactToTick, Subscription.tick_of_fault prunes]

theorem reactToTick_ticks (s : Session) (now : Instant) :
    s.Ticks now (s.reactToTick now) := by
  rcases hprune : s.subscription.scope.prune now with ⟨scope, result⟩
  cases result with
  | error fault => exact reactToTick_of_fault hprune ▸ .brokeDown scope fault hprune
  | ok =>
      rw [reactToTick_eq hprune]
      split
      · rename_i hdeadline
        exact .expired scope hprune hdeadline
      · rename_i hdeadline
        split
        · rename_i hwarning
          exact .warned scope hprune hdeadline hwarning.1 hwarning.2
        · rename_i hearly
          refine .quiet scope hprune hdeadline ?_
          rcases Bool.eq_false_or_eq_true s.subscription.warned with hwarned | hunwarned
          · exact .inl hwarned
          · exact .inr fun hdue => hearly ⟨hunwarned, hdue⟩

end Session

/-! ## Openings -/

namespace Subscription

@[simp]
theorem cleared_observeAll (scope : Scope) (now : Instant) (es : List Event) :
    (observeAll scope now es).1.cleared = scope.cleared := by
  induction es generalizing scope with
  | nil => rfl
  | cons e rest ih =>
      have hobserve := scope.cleared_observe e now
      unfold observeAll
      split
      · rename_i next heq
        rw [heq] at hobserve
        rw [ih next]
        exact hobserve
      · rename_i next fault heq
        rw [heq] at hobserve
        exact hobserve

/-- All events can be retained as long as the cutoff can be told. -/
theorem observeAll_ok {scope : Scope} {now : Instant}
    (h : (now.sub? scope.window.retention.age).isSome = true) (es : List Event) :
    (observeAll scope now es).2 = .ok () := by
  induction es generalizing scope with
  | nil => rfl
  | cons e rest ih =>
      have hok := Scope.observe_ok e h
      have hretention := Scope.retention_of_cleared (scope.cleared_observe e now)
      rcases hobserve : scope.observe e now with ⟨next, result⟩
      rw [hobserve] at hok hretention
      obtain rfl : result = .ok () := hok
      rw [observeAll, hobserve]
      refine ih ?_
      rw [show next.window.retention = scope.window.retention from hretention]
      exact h

/-- Taking in the listed events only changes the events seen. -/
theorem seed_eq {s seeded : Subscription} {listed : List Event} {limit : Nat} {now : Instant}
    {result : Except RangeFault (Option Event)}
    (h : s.seed listed limit now = (seeded, result)) :
    ∃ scope : Scope, scope.cleared = s.scope.cleared ∧ seeded = { s with scope := scope } := by
  have hcleared := cleared_observeAll s.scope now
    (Window.lastOf limit (listed.mergeSort Event.noLater))
  unfold seed at h
  dsimp only at h
  split at h
  · rename_i scope heq
    rw [heq] at hcleared
    exact ⟨scope, hcleared, (congrArg Prod.fst h).symm⟩
  · rename_i scope fault heq
    rw [heq] at hcleared
    exact ⟨scope, hcleared, (congrArg Prod.fst h).symm⟩

/-- The listed events can be taken in as long as the cutoff can be told. -/
theorem seed_ok {s : Subscription} {now : Instant}
    (h : (now.sub? s.scope.window.retention.age).isSome = true) (listed : List Event)
    (limit : Nat) : ∃ seeded newest, s.seed listed limit now = (seeded, .ok newest) := by
  have hok := observeAll_ok h (Window.lastOf limit (listed.mergeSort Event.noLater))
  rcases hobserve : observeAll s.scope now
    (Window.lastOf limit (listed.mergeSort Event.noLater)) with ⟨scope, result⟩
  rw [hobserve] at hok
  obtain rfl : result = .ok () := hok
  unfold seed
  dsimp only
  rw [hobserve]
  exact ⟨_, _, rfl⟩

/-- A seeded event that has another phase speaks up. -/
theorem openReplay_of_moves {s : Subscription} {e : Event} {now : Instant} {u : Update}
    (hevaluates : s.evaluateEvent e now = some u) (hmoves : u.phase ≠ s.phase) :
    s.openReplay (some e) now =
      ((({ s with phase := u.phase } : Subscription).deliver u).1,
        some (({ s with phase := u.phase } : Subscription).deliver u).2) := by
  simp only [openReplay, replayEvent, hevaluates, inPhaseOf, hmoves, if_false]

/-- The seeded event either changes nothing, or it moves the phase and speaks up. -/
theorem openReplay_cases (s : Subscription) (newest : Option Event) (now : Instant) :
    s.openReplay newest now = (s, none) ∨
      ∃ e u, newest = some e ∧ s.evaluateEvent e now = some u ∧ u.phase ≠ s.phase ∧
        s.openReplay newest now =
          ((({ s with phase := u.phase } : Subscription).deliver u).1,
            some (({ s with phase := u.phase } : Subscription).deliver u).2) := by
  cases newest with
  | none => exact .inl rfl
  | some e =>
      cases hu : s.evaluateEvent e now with
      | none =>
          refine .inl ?_
          simp only [openReplay, replayEvent, hu, inPhaseOf]
      | some u =>
          by_cases hsame : u.phase = s.phase
          · refine .inl ?_
            simp only [openReplay, replayEvent, hu, inPhaseOf, hsame, if_true]
          · exact .inr ⟨e, u, rfl, hu, hsame, openReplay_of_moves hu hsame⟩

/-- The first update is what the fetched deployment says in the light of the listed events. -/
theorem openFirst_eq (s : Subscription) (d : Deployment) (now : Instant) :
    s.openFirst d now =
      ({ s.withSnapshot d.snapshot now with
        phase := d.snapshot.classify s.scope.covered } : Subscription).deliver
          (.ofSnapshot d.snapshot s.scope.covered now) :=
  rfl

@[simp]
theorem openFirst_scope (s : Subscription) (d : Deployment) (now : Instant) :
    (s.openFirst d now).1.scope = s.scope := by
  rw [openFirst_eq, deliver_eq]
  rfl

/-- How a session opens. -/
inductive Starts (s : Subscription) (d : Deployment) (listed : List Event) (limit : Nat)
    (hearsEvents : Bool) (now : Instant) : Opening → Prop where
  /-- The first update is the last. -/
  | finished (seeded : Subscription) (newest : Option Event)
      (seeds : s.seed listed limit now = (seeded, .ok newest))
      (terminal : (seeded.openFirst d now).2.update.terminal = true) :
      Starts s d listed limit hearsEvents now
        { session := { subscription := (seeded.openFirst d now).1, hearsEvents := hearsEvents }
          effects := [.delivery (seeded.openFirst d now).2]
          finished := true }
  /-- No listed event moves the phase. -/
  | silent (seeded : Subscription) (newest : Option Event)
      (seeds : s.seed listed limit now = (seeded, .ok newest))
      (going : (seeded.openFirst d now).2.update.terminal = false) :
      Starts s d listed limit hearsEvents now
        { session := { subscription := (seeded.openFirst d now).1, hearsEvents := hearsEvents }
          effects := [.delivery (seeded.openFirst d now).2]
          finished := false }
  /-- A listed event moves the phase. -/
  | replayed (seeded : Subscription) (e : Event) (u : Update)
      (seeds : s.seed listed limit now = (seeded, .ok (some e)))
      (going : (seeded.openFirst d now).2.update.terminal = false)
      (evaluates : (seeded.openFirst d now).1.evaluateEvent e now = some u)
      (moves : u.phase ≠ (seeded.openFirst d now).1.phase) :
      Starts s d listed limit hearsEvents now
        { session :=
            { subscription :=
                (({ (seeded.openFirst d now).1 with phase := u.phase } : Subscription).deliver u).1
              hearsEvents := hearsEvents }
          effects :=
            [ .delivery (seeded.openFirst d now).2,
              .delivery (({ (seeded.openFirst d now).1 with
                phase := u.phase } : Subscription).deliver u).2 ]
          finished := u.terminal }

/-- A session opens as long as the cutoff can be told. -/
theorem openWith_ok {s : Subscription} {now : Instant}
    (h : (now.sub? s.scope.window.retention.age).isSome = true) (d : Deployment)
    (listed : List Event) (limit : Nat) (hearsEvents : Bool) :
    ∃ o, s.openWith d listed limit hearsEvents now = .ok o := by
  obtain ⟨seeded, newest, hseed⟩ := seed_ok h listed limit
  unfold openWith
  rw [hseed]
  dsimp only
  split
  · exact ⟨_, rfl⟩
  · exact ⟨_, rfl⟩

theorem openWith_starts {s : Subscription} {d : Deployment} {listed : List Event} {limit : Nat}
    {hearsEvents : Bool} {now : Instant} {o : Opening}
    (h : s.openWith d listed limit hearsEvents now = .ok o) :
    s.Starts d listed limit hearsEvents now o := by
  unfold openWith at h
  rcases hseed : s.seed listed limit now with ⟨seeded, result⟩
  rw [hseed] at h
  cases result with
  | error fault => cases h
  | ok newest =>
      dsimp only at h
      split at h
      · rename_i hlast
        obtain rfl := Except.ok.inj h
        exact .finished seeded newest hseed hlast
      · rename_i hgoing
        rw [Bool.not_eq_true] at hgoing
        rcases (seeded.openFirst d now).1.openReplay_cases newest now with
          hsilent | ⟨e, u, rfl, hu, hmoves, hspeaks⟩
        · rw [hsilent] at h
          obtain rfl := Except.ok.inj h
          exact .silent seeded newest hseed hgoing
        · rw [hspeaks] at h
          obtain rfl := Except.ok.inj h
          simp only [Option.toList_some, List.map_cons, List.map_nil, Option.any_some,
            deliver_update]
          exact .replayed seeded e u hseed hgoing hu hmoves

/-- A subscription that has said nothing yet opens with what the fetched deployment says in the
light of the listed events. -/
theorem openWith_first {s : Subscription} (hsilent : s.lastSaid = none) {d : Deployment}
    {listed : List Event} {limit : Nat} {hearsEvents : Bool} {now : Instant} {o : Opening}
    (h : s.openWith d listed limit hearsEvents now = .ok o) :
    ∃ rest, o.effects = .delivery (.offered
      (.ofSnapshot d.snapshot (s.seed listed limit now).1.scope.covered now)) :: rest := by
  have hfirst : ∀ {seeded : Subscription} {result : Except RangeFault (Option Event)},
      s.seed listed limit now = (seeded, result) → (seeded.openFirst d now).2 =
        .offered (.ofSnapshot d.snapshot (s.seed listed limit now).1.scope.covered now) := by
    intro seeded result seeds
    rw [seeds]
    obtain ⟨scope, -, rfl⟩ := seed_eq seeds
    rw [openFirst_eq, deliver_of_ne (by simp [withSnapshot, hsilent])]
  cases openWith_starts h with
  | finished seeded newest seeds terminal | silent seeded newest seeds going
  | replayed seeded e u seeds going evaluates moves =>
      rw [hfirst seeds]
      exact ⟨_, rfl⟩

/-- A subscription that has said nothing yet opens with an update for the sink. -/
theorem openWith_speaks {s : Subscription} (hsilent : s.lastSaid = none) {d : Deployment}
    {listed : List Event} {limit : Nat} {hearsEvents : Bool} {now : Instant} {o : Opening}
    (h : s.openWith d listed limit hearsEvents now = .ok o) :
    ∃ u rest, o.effects = .delivery (.offered u) :: rest :=
  ⟨_, openWith_first hsilent h⟩

end Subscription

/-! ## Runs -/

namespace Session

variable {s : Session} {signals later : List (Instant × Signal)}

@[simp]
theorem run_singleton (s : Session) (now : Instant) (signal : Signal) :
    s.run [(now, signal)] = s.take now signal := by
  cases hending : (s.take now signal).ending with
  | some ending => exact run_cons_of_ended s now signal ending [] hending
  | none =>
      rw [run_cons s now signal [] hending]
      simp only [run, idle, List.append_nil, ← hending]

/-- A run that goes on turns to one more signal. -/
theorem run_snoc (h : (s.run signals).ending = none) (now : Instant) (signal : Signal) :
    s.run (signals ++ [(now, signal)]) =
      { (s.run signals).session.take now signal with
        effects := (s.run signals).effects ++
          ((s.run signals).session.take now signal).effects } := by
  rw [run_append s signals _ h, run_singleton]

/-- What a run goes on after did not end it. -/
theorem going_of_prefix (h : signals <+: later) (hgoing : (s.run later).ending = none) :
    (s.run signals).ending = none := by
  obtain ⟨rest, rfl⟩ := h
  cases hending : (s.run signals).ending with
  | none => rfl
  | some ending =>
      rw [run_append_of_ended s signals rest ending hending, hending] at hgoing
      cases hgoing

/-- A longer run has the effects of a shorter one, and maybe more. -/
theorem effects_run_prefix (h : signals <+: later) :
    (s.run signals).effects <+: (s.run later).effects := by
  obtain ⟨rest, rfl⟩ := h
  cases hending : (s.run signals).ending with
  | some ending =>
      have hsame := run_append_of_ended s signals rest ending hending
      exact hsame.symm ▸ List.prefix_rfl
  | none =>
      rw [run_append s signals rest hending]
      exact List.prefix_append _ _

end Session

namespace Opening

theorem run_of_finished {o : Opening} (h : o.finished = true) (signals : List (Instant × Signal)) :
    o.run signals =
      { session := o.session, effects := o.effects, ending := some .terminal } := by
  rw [run, if_pos h]

theorem run_of_going {o : Opening} (h : o.finished = false) (signals : List (Instant × Signal)) :
    o.run signals =
      { o.session.run signals with effects := o.effects ++ (o.session.run signals).effects } := by
  rw [run, if_neg (by simp [h])]

end Opening
end ProvisionWatch

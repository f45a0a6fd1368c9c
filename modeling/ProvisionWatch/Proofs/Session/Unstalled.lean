import ProvisionWatch.Proofs.Session.InStep

/-!
# Sessions apart from stalls

A session keeps three things about stalls: the threshold, when the conditions last
changed, and whether the present stall was reported.  They are read for one
purpose only, to count a stall at a tick.  With the threshold and the report
erased a session does the same with every signal, apart from counting.

Main results:

- Theorem `take_unstalled`: erasing and taking a signal commute.
- Theorem `outcome_tick_unstalled`: the outcome of a tick is that of the erased
  subscription.
- Theorem `openWith_congr`: subscriptions that differ in stalls only open alike.
- Theorem `Opening.run_congr`: and what they open runs alike.
-/

namespace ProvisionWatch

/-! ## Erasing -/

/-- Whether an effect counts a stall. -/
def Effect.isStall : Effect → Bool
  | stall => true
  | delivery _ | watchError _ _ => false

/-- The effects that do not count stalls. -/
def withoutStalls (effects : List Effect) : List Effect :=
  effects.filter fun e => !e.isStall

/-- A subscription that does not know what a stall is, nor whether one was reported. -/
def Subscription.unstalled (s : Subscription) : Subscription :=
  { s with stallThreshold := ⟨0⟩, stallReported := false }

/-- A session of such a subscription. -/
def Session.unstalled (s : Session) : Session :=
  { s with subscription := s.subscription.unstalled }

/-- A reaction without the stalls that it counts. -/
def Reaction.unstalled (r : Reaction) : Reaction :=
  { session := r.session.unstalled, effects := withoutStalls r.effects, ending := r.ending }

theorem Reaction.unstalled_eq_iff {r r' : Reaction} :
    r.unstalled = r'.unstalled ↔ r.session.unstalled = r'.session.unstalled ∧
      withoutStalls r.effects = withoutStalls r'.effects ∧ r.ending = r'.ending := by
  simp [unstalled]

/-- An opening without the stalls that it counts. -/
def Opening.unstalled (o : Opening) : Opening :=
  { session := o.session.unstalled, effects := withoutStalls o.effects, finished := o.finished }

@[simp]
theorem withoutStalls_append (effects later : List Effect) :
    withoutStalls (effects ++ later) = withoutStalls effects ++ withoutStalls later :=
  List.filter_append ..

/-- The effects of a tick that found a stall count it, and that is all. -/
@[simp]
theorem withoutStalls_stallEffects (stalled : Bool) :
    withoutStalls (Session.stallEffects stalled) = [] := by
  cases stalled <;> rfl

/-- Counting a stall hands nothing over. -/
@[simp]
theorem offeredUpdates_withoutStalls (effects : List Effect) :
    offeredUpdates (withoutStalls effects) = offeredUpdates effects := by
  induction effects with
  | nil => rfl
  | cons e rest ih =>
      have hrest : offeredUpdates (e :: rest) = e.offered?.toList ++ offeredUpdates rest := by
        cases h : e.offered? <;> simp [offeredUpdates, h]
      cases e with
      | stall => exact ih
      | delivery d =>
          rw [hrest, ← ih]
          cases h : d.offered? <;>
            simp [offeredUpdates, withoutStalls, Effect.isStall, Effect.offered?, h]
      | watchError stream kind => exact ih

/-! ## Subscriptions -/

namespace Subscription

variable (s : Subscription) (now : Instant)

theorem deliver_unstalled (u : Update) :
    (s.deliver u).1.unstalled = (s.unstalled.deliver u).1 ∧
      (s.deliver u).2 = (s.unstalled.deliver u).2 := by
  unfold deliver
  rw [show s.unstalled.shouldOffer u = s.shouldOffer u from rfl]
  split <;> exact ⟨rfl, rfl⟩

/-- Subscriptions that differ in stalls only deliver alike. -/
theorem deliver_congr {s t : Subscription} (h : s.unstalled = t.unstalled) (u : Update) :
    (s.deliver u).1.unstalled = (t.deliver u).1.unstalled ∧ (s.deliver u).2 = (t.deliver u).2 := by
  rw [(s.deliver_unstalled u).1, (s.deliver_unstalled u).2, h, (t.deliver_unstalled u).1,
    (t.deliver_unstalled u).2]
  exact ⟨rfl, rfl⟩

theorem checkDeadline_unstalled :
    s.unstalled.checkDeadline now =
      ((s.checkDeadline now).1.unstalled, (s.checkDeadline now).2) := by
  unfold checkDeadline
  rw [show s.unstalled.deadline = s.deadline from rfl, show s.unstalled.warned = s.warned from rfl,
    show s.unstalled.warningTime = s.warningTime from rfl]
  split
  · rfl
  · split <;> rfl

/-- What a tick comes to once the window is pruned. -/
theorem outcome_tick {scope : Scope} (prunes : s.scope.prune now = (scope, .ok ())) :
    (s.tick now).2.map Ticked.outcome = .ok ((s.lookedAt scope now).checkDeadline now).2 := by
  rw [tick_eq prunes]
  rfl

/-- The outcome of a tick does not depend on stalls. -/
@[simp]
theorem outcome_tick_unstalled :
    (s.unstalled.tick now).2.map Ticked.outcome = (s.tick now).2.map Ticked.outcome := by
  rcases hprune : s.scope.prune now with ⟨scope, result⟩
  cases result with
  | error fault =>
      unfold tick
      rw [show s.unstalled.scope = s.scope from rfl, hprune]
  | ok =>
      have hlooked := (s.lookedAt scope now).checkDeadline_unstalled now
      have herased := (s.unstalled.lookedAt scope now).checkDeadline_unstalled now
      have hsame : (s.unstalled.lookedAt scope now).unstalled = (s.lookedAt scope now).unstalled :=
        rfl
      rw [hsame] at herased
      rw [outcome_tick s.unstalled now hprune, outcome_tick s now hprune]
      rw [herased, Prod.mk.injEq] at hlooked
      exact congrArg Except.ok hlooked.2

end Subscription

/-! ## Reactions -/

namespace Session

variable (s : Session) (now : Instant)

/-- A session says the same when it is erased, after effects that differ in stalls only. -/
theorem say_unstalled {subscription subscription' : Subscription} {before before' : List Effect}
    (hsubscription : subscription.unstalled = subscription'.unstalled)
    (hbefore : withoutStalls before = withoutStalls before') (u : Update)
    (ending : Option Ending) :
    (s.unstalled.say subscription before u ending).unstalled =
      (s.say subscription' before' u ending).unstalled := by
  obtain ⟨hsession, hdelivery⟩ := Subscription.deliver_congr hsubscription u
  simp only [say, Reaction.unstalled, Session.unstalled, withoutStalls_append, hbefore, hdelivery,
    hsession]

@[simp]
theorem reactToResource_unstalled (item : ResourceItem) :
    (s.unstalled.reactToResource now item).unstalled = (s.reactToResource now item).unstalled := by
  cases item with
  | change change =>
      obtain ⟨d, kind⟩ := change
      cases kind with
      | added | modified => apply s.say_unstalled <;> rfl
      | deleted => apply s.say_unstalled <;> rfl
  | error e =>
      unfold reactToResource
      dsimp only
      split
      · rfl
      · apply s.say_unstalled <;> rfl
  | ended => apply s.say_unstalled <;> rfl

@[simp]
theorem reactToEvent_unstalled (item : EventItem) :
    (s.unstalled.reactToEvent now item).unstalled = (s.reactToEvent now item).unstalled := by
  cases item with
  | event e =>
      rcases hobserve : s.subscription.scope.observe e now with ⟨scope, result⟩
      have hobserve' : s.unstalled.subscription.scope.observe e now = (scope, result) := hobserve
      cases result with
      | error fault =>
          rw [reactToEvent_of_fault hobserve, reactToEvent_of_fault hobserve']
          rfl
      | ok =>
          rw [reactToEvent_of_retained hobserve, reactToEvent_of_retained hobserve']
          rw [show s.unstalled.subscription.evaluateEvent e now =
            s.subscription.evaluateEvent e now from rfl]
          cases s.subscription.evaluateEvent e now with
          | none => rfl
          | some u => apply s.say_unstalled <;> rfl
  | error e => apply s.say_unstalled <;> rfl
  | ended => rfl

@[simp]
theorem reactToTick_unstalled :
    (s.unstalled.reactToTick now).unstalled = (s.reactToTick now).unstalled := by
  rcases hprune : s.subscription.scope.prune now with ⟨scope, result⟩
  have hprune' : s.unstalled.subscription.scope.prune now = (scope, result) := hprune
  cases result with
  | error fault =>
      rw [reactToTick_of_fault hprune, reactToTick_of_fault hprune']
      rfl
  | ok =>
      have hseen : ∀ stalled stalled' : Bool,
          withoutStalls (stallEffects stalled) = withoutStalls (stallEffects stalled') := by
        intro stalled stalled'
        rw [withoutStalls_stallEffects, withoutStalls_stallEffects]
      rw [reactToTick_eq hprune, reactToTick_eq hprune',
        show s.unstalled.subscription.deadline = s.subscription.deadline from rfl,
        show s.unstalled.subscription.warned = s.subscription.warned from rfl,
        show s.unstalled.subscription.warningTime = s.subscription.warningTime from rfl]
      split
      · refine s.say_unstalled ?_ (hseen _ _) _ _
        rfl
      · split
        · refine s.say_unstalled ?_ (hseen _ _) _ none
          rfl
        · simp only [Reaction.unstalled, withoutStalls_stallEffects]
          rfl

/-- A session does the same with a signal when it is erased, apart from counting stalls. -/
@[simp]
theorem take_unstalled (signal : Signal) :
    (s.unstalled.take now signal).unstalled = (s.take now signal).unstalled := by
  cases signal with
  | cancel => rfl
  | input input =>
      cases input with
      | resource item => exact s.reactToResource_unstalled now item
      | event item => exact s.reactToEvent_unstalled now item
      | tick => exact s.reactToTick_unstalled now

/-- Sessions that differ in stalls only do the same with a signal. -/
theorem take_congr {s t : Session} (h : s.unstalled = t.unstalled) (signal : Signal) :
    (s.take now signal).unstalled = (t.take now signal).unstalled := by
  rw [← s.take_unstalled, h, t.take_unstalled]

/-- Sessions that differ in stalls only run alike. -/
theorem run_congr {s t : Session} (h : s.unstalled = t.unstalled)
    (signals : List (Instant × Signal)) :
    (s.run signals).unstalled = (t.run signals).unstalled := by
  induction signals generalizing s t with
  | nil =>
      simp only [run, idle, Reaction.unstalled]
      rw [h]
  | cons timed rest ih =>
      obtain ⟨now, signal⟩ := timed
      obtain ⟨hsession, heffects, hending⟩ :=
        Reaction.unstalled_eq_iff.mp (take_congr now h signal)
      cases hends : (s.take now signal).ending with
      | some ending =>
          rw [run_cons_of_ended s now signal ending rest hends,
            run_cons_of_ended t now signal ending rest (hending ▸ hends)]
          exact take_congr now h signal
      | none =>
          obtain ⟨hlast, hlater, hlastEnding⟩ := Reaction.unstalled_eq_iff.mp (ih hsession)
          rw [run_cons s now signal rest hends, run_cons t now signal rest (hending ▸ hends)]
          refine Reaction.unstalled_eq_iff.mpr ⟨hlast, ?_, hlastEnding⟩
          rw [withoutStalls_append, withoutStalls_append, heffects, hlater]

end Session

/-! ## Openings -/

namespace Subscription

variable {s t : Subscription} {now : Instant}

theorem seed_unstalled (s : Subscription) (listed : List Event) (limit : Nat) (now : Instant) :
    s.unstalled.seed listed limit now =
      ((s.seed listed limit now).1.unstalled, (s.seed listed limit now).2) := by
  unfold seed
  dsimp only
  rw [show s.unstalled.scope = s.scope from rfl]
  split <;> rfl

theorem openFirst_congr (h : s.unstalled = t.unstalled) (d : Deployment) (now : Instant) :
    (s.openFirst d now).1.unstalled = (t.openFirst d now).1.unstalled ∧
      (s.openFirst d now).2 = (t.openFirst d now).2 := by
  have hscope : s.scope = t.scope := congrArg (fun erased => erased.scope) h
  have hsnapshot : ({ s.withSnapshot d.snapshot now with
      phase := d.snapshot.classify s.scope.covered } : Subscription).unstalled =
        ({ t.withSnapshot d.snapshot now with
          phase := d.snapshot.classify t.scope.covered } : Subscription).unstalled := by
    show ({ s.unstalled.withSnapshot d.snapshot now with
      phase := d.snapshot.classify s.unstalled.scope.covered } : Subscription).unstalled = _
    rw [h]
    rfl
  rw [openFirst_eq, openFirst_eq, hscope]
  rw [hscope] at hsnapshot
  exact deliver_congr hsnapshot _

theorem openReplay_congr (h : s.unstalled = t.unstalled) (newest : Option Event) (now : Instant) :
    (s.openReplay newest now).1.unstalled = (t.openReplay newest now).1.unstalled ∧
      (s.openReplay newest now).2 = (t.openReplay newest now).2 := by
  have hphase : s.phase = t.phase := congrArg (fun erased => erased.phase) h
  have hevaluate : ∀ e, s.evaluateEvent e now = t.evaluateEvent e now := by
    intro e
    show s.unstalled.evaluateEvent e now = t.unstalled.evaluateEvent e now
    rw [h]
  unfold openReplay replayEvent
  cases newest with
  | none => exact ⟨h, rfl⟩
  | some e =>
      dsimp only
      rw [hevaluate e, hphase]
      cases hu : t.evaluateEvent e now with
      | none => exact ⟨h, rfl⟩
      | some u =>
          have hmoved : ({ s with phase := u.phase } : Subscription).unstalled =
              ({ t with phase := u.phase } : Subscription).unstalled :=
            congrArg (fun erased : Subscription => { erased with phase := u.phase }) h
          dsimp only [inPhaseOf]
          split
          · exact ⟨hmoved, rfl⟩
          · exact ⟨(deliver_congr hmoved u).1, congrArg some (deliver_congr hmoved u).2⟩

/-- Subscriptions that differ in stalls only open alike, if at all. -/
theorem openWith_congr (h : s.unstalled = t.unstalled) (d : Deployment) (listed : List Event)
    (limit : Nat) (hearsEvents : Bool) (now : Instant) :
    (s.openWith d listed limit hearsEvents now).map Opening.unstalled =
      (t.openWith d listed limit hearsEvents now).map Opening.unstalled := by
  have hseed := s.seed_unstalled listed limit now
  rw [h, t.seed_unstalled] at hseed
  unfold openWith
  rcases hs : s.seed listed limit now with ⟨seeded, result⟩
  rcases ht : t.seed listed limit now with ⟨seeded', result'⟩
  rw [hs, ht] at hseed
  obtain ⟨hseeded, rfl⟩ := Prod.mk.inj hseed
  cases result' with
  | error fault => rfl
  | ok newest =>
      obtain ⟨hfirst, hdelivery⟩ := openFirst_congr hseeded.symm d now
      obtain ⟨hsecond, hreplayed⟩ := openReplay_congr hfirst newest now
      dsimp only
      rw [hdelivery]
      split
      · simp only [Except.map, Opening.unstalled, Session.unstalled, hfirst]
      · simp only [Except.map, Opening.unstalled, Session.unstalled, hsecond, hreplayed]

end Subscription

namespace Opening

theorem unstalled_eq_iff {o o' : Opening} :
    o.unstalled = o'.unstalled ↔ o.session.unstalled = o'.session.unstalled ∧
      withoutStalls o.effects = withoutStalls o'.effects ∧ o.finished = o'.finished := by
  simp [unstalled]

/-- Openings that differ in stalls only run alike. -/
theorem run_congr {o o' : Opening} (h : o.unstalled = o'.unstalled)
    (signals : List (Instant × Signal)) :
    (o.run signals).unstalled = (o'.run signals).unstalled := by
  obtain ⟨hsession, heffects, hfinished⟩ := unstalled_eq_iff.mp h
  cases hends : o.finished with
  | true =>
      rw [run_of_finished hends, run_of_finished (hfinished ▸ hends)]
      exact Reaction.unstalled_eq_iff.mpr ⟨hsession, heffects, rfl⟩
  | false =>
      obtain ⟨hlast, hlater, hending⟩ :=
        Reaction.unstalled_eq_iff.mp (Session.run_congr hsession signals)
      rw [run_of_going hends, run_of_going (hfinished ▸ hends)]
      refine Reaction.unstalled_eq_iff.mpr ⟨hlast, ?_, hending⟩
      rw [withoutStalls_append, withoutStalls_append, heffects, hlater]

end Opening
end ProvisionWatch

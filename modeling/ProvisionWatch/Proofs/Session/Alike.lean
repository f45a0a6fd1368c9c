import ProvisionWatch.Proofs.Subscription.Cutoff
import ProvisionWatch.Proofs.Subscription.Evidence

/-!
# Sessions alike but for the events seen

The retained events have one use: a change asks them for evidence.  So sessions
that differ in them only are alike.  They take every signal alike, unless it is
a change of an undecided deployment and one of them retains evidence in scope
while the other does not.

Main results:

- Theorem `evaluateEvent_blind`: what an event says does not depend on the events
  seen before.
- Theorem `take_alike`: sessions alike take a signal alike.
- Theorem `take_foreign`: an event out of scope says nothing, and leaves a session
  alike.
-/

namespace ProvisionWatch

/-! ## Without the events seen -/

/-- A subscription without the events it has seen. -/
def Subscription.blind (s : Subscription) : Subscription :=
  { s with scope := s.scope.cleared }

/-- A session without the events it has seen. -/
def Session.blind (s : Session) : Session :=
  { s with subscription := s.subscription.blind }

/-- Reactions with the same effects and endings, of sessions alike but for the events seen. -/
structure Reaction.Alike (r r' : Reaction) : Prop where
  effects : r.effects = r'.effects
  ending : r.ending = r'.ending
  session : r.session.blind = r'.session.blind

theorem Reaction.Alike.refl (r : Reaction) : r.Alike r :=
  ⟨rfl, rfl, rfl⟩

theorem Reaction.Alike.trans {r r' r'' : Reaction} (h : r.Alike r') (h' : r'.Alike r'') :
    r.Alike r'' :=
  ⟨h.effects.trans h'.effects, h.ending.trans h'.ending, h.session.trans h'.session⟩

/-- Only events change. -/
theorem Subscription.blind_of_cleared {s : Subscription} {scope : Scope}
    (h : scope.cleared = s.scope.cleared) :
    ({ s with scope := scope } : Subscription).blind = s.blind := by
  unfold blind
  dsimp only
  rw [h]

theorem Session.blind_eq {s t : Session} {subscription subscription' : Subscription}
    (h : s.blind = t.blind) (hsubscription : subscription.blind = subscription'.blind) :
    ({ s with subscription := subscription } : Session).blind =
      ({ t with subscription := subscription' } : Session).blind := by
  have hhears : s.hearsEvents = t.hearsEvents := congrArg (fun blind => blind.hearsEvents) h
  unfold blind
  dsimp only
  rw [hhears, hsubscription]

/-! ## What an event says -/

/-- An event is judged by the rules and the last snapshot alone. -/
theorem Subscription.evaluateEvent_blind (s : Subscription) (e : Event) (now : Instant) :
    s.evaluateEvent e now = s.blind.evaluateEvent e now := by
  unfold evaluateEvent
  rw [show s.blind.scope.evaluate e now = s.scope.evaluate e now from rfl,
    show s.blind.lastSnapshot = s.lastSnapshot from rfl]
  refine Option.map_congr fun evaluation _ => ?_
  dsimp only
  rw [Snapshot.isTerminal_classify, Snapshot.isTerminal_classify]
  cases hdecided : (s.lastSnapshot.getD .blank).isDecided with
  | false => rfl
  | true =>
      rw [Snapshot.classify_of_isDecided hdecided (s.scope.covered ++ [e]),
        Snapshot.classify_of_isDecided hdecided (s.blind.scope.covered ++ [e])]

namespace Session

variable {s t : Session} {now : Instant}

/-! ## Saying the same -/

section Saying

variable {subscription subscription' : Subscription}

/-- What is said, and to what effect, depends on nothing that was seen. -/
theorem alike_say (h : s.blind = t.blind) (hsubscription : subscription.blind = subscription'.blind)
    (before : List Effect) (u : Update) (ending : Option Ending) :
    (s.say subscription before u ending).Alike (t.say subscription' before u ending) := by
  have hlast : subscription.lastSaid = subscription'.lastSaid :=
    congrArg (fun blind => blind.lastSaid) hsubscription
  have hdelivery : (subscription.deliver u).2 = (subscription'.deliver u).2 := by
    have hoffer : subscription.shouldOffer u = subscription'.shouldOffer u := by
      unfold Subscription.shouldOffer
      rw [hlast]
    unfold Subscription.deliver
    rw [hoffer]
    split <;> rfl
  refine ⟨?_, rfl, ?_⟩
  · show before ++ [Effect.delivery (subscription.deliver u).2] =
      before ++ [Effect.delivery (subscription'.deliver u).2]
    rw [hdelivery]
  · refine blind_eq h ?_
    show (subscription.deliver u).1.blind = (subscription'.deliver u).1.blind
    rw [Subscription.deliver_eq, Subscription.deliver_eq]
    exact congrArg (fun blind : Subscription => { blind with lastSaid := some u.said })
      hsubscription

/-- The same update ends alike, or not. -/
theorem alike_report (h : s.blind = t.blind)
    (hsubscription : subscription.blind = subscription'.blind) (u : Update) :
    (s.report subscription u).Alike (t.report subscription' u) :=
  alike_say h hsubscription [] u _

end Saying

/-! ## Own signals -/

/-- Sessions alike take in a change alike, unless evidence makes a difference to them. -/
theorem alike_change (h : s.blind = t.blind) (change : Change)
    (hshows : change.kind ≠ .deleted → change.deployment.snapshot.isDecided = false →
      s.subscription.scope.showsInstalling = t.subscription.scope.showsInstalling) :
    (s.reactToResource now (.change change)).Alike (t.reactToResource now (.change change)) := by
  have hsubscription : s.subscription.blind = t.subscription.blind :=
    congrArg Session.subscription h
  obtain ⟨d, kind⟩ := change
  have hupdate : kind ≠ .deleted →
      Update.ofSnapshot d.snapshot s.subscription.scope.covered now =
        Update.ofSnapshot d.snapshot t.subscription.scope.covered now := by
    intro hkind
    cases hdecided : d.snapshot.isDecided with
    | true =>
        exact (Update.ofSnapshot_of_isDecided hdecided _ now).trans
          (Update.ofSnapshot_of_isDecided hdecided _ now).symm
    | false => exact Update.ofSnapshot_congr (hshows hkind hdecided) now
  have hsnapshot : ∀ phase : Phase,
      ({ s.subscription.withSnapshot d.snapshot now with phase := phase } : Subscription).blind =
        ({ t.subscription.withSnapshot d.snapshot now with
          phase := phase } : Subscription).blind := by
    intro phase
    show ({ s.subscription.blind.withSnapshot d.snapshot now with
      phase := phase } : Subscription) = { t.subscription.blind.withSnapshot d.snapshot now with
        phase := phase }
    rw [hsubscription]
  cases kind with
  | deleted =>
      show (s.report s.subscription (s.subscription.blind.deletedNotice now)).Alike
        (t.report t.subscription (t.subscription.blind.deletedNotice now))
      rw [hsubscription]
      exact alike_report h hsubscription _
  | added | modified =>
      have hsame := hupdate (by decide)
      show (s.report { s.subscription.withSnapshot d.snapshot now with
          phase := (Update.ofSnapshot d.snapshot s.subscription.scope.covered now).phase }
        (Update.ofSnapshot d.snapshot s.subscription.scope.covered now)).Alike
          (t.report { t.subscription.withSnapshot d.snapshot now with
            phase := (Update.ofSnapshot d.snapshot t.subscription.scope.covered now).phase }
            (Update.ofSnapshot d.snapshot t.subscription.scope.covered now))
      rw [hsame]
      exact alike_report h (hsnapshot _) _

/-- To a change of an undecided deployment evidence does make a difference: it is not taken in to
the same effect unless evidence shows to both sessions, or to neither. -/
theorem showsInstalling_of_effects {change : Change} (hkind : change.kind ≠ .deleted)
    (hundecided : change.deployment.snapshot.isDecided = false)
    (h : (s.take now (.input (.resource (.change change)))).effects =
      (t.take now (.input (.resource (.change change)))).effects) :
    s.subscription.scope.showsInstalling = t.subscription.scope.showsInstalling := by
  have hdelivery : ∀ r : Session, (r.take now (.input (.resource (.change change)))).effects =
      [.delivery ((r.subscription.applyChange change now).1.deliver
        (r.subscription.applyChange change now).2).2] :=
    fun _ => rfl
  rw [hdelivery, hdelivery, List.singleton_inj, Effect.delivery.injEq] at h
  have hupdate := congrArg Delivery.update h
  rw [Subscription.deliver_update, Subscription.deliver_update] at hupdate
  have hphase := congrArg Update.phase hupdate
  rw [Subscription.phase_applyChange_eq _ hkind, Subscription.phase_applyChange_eq _ hkind,
    hundecided] at hphase
  have hplain := change.deployment.snapshot.classify_nil_ne_installing
  cases hs : s.subscription.scope.showsInstalling <;>
    cases ht : t.subscription.scope.showsInstalling
  · rfl
  · rw [hs, ht] at hphase
    exact absurd hphase hplain
  · rw [hs, ht] at hphase
    exact absurd hphase.symm hplain
  · rfl

/-- Sessions alike take in an event alike. -/
theorem alike_event (h : s.blind = t.blind) (e : Event) :
    (s.reactToEvent now (.event e)).Alike (t.reactToEvent now (.event e)) := by
  have hsubscription : s.subscription.blind = t.subscription.blind :=
    congrArg Session.subscription h
  have hcleared : s.subscription.scope.cleared = t.subscription.scope.cleared :=
    congrArg Subscription.scope hsubscription
  have hsays : s.subscription.evaluateEvent e now = t.subscription.evaluateEvent e now := by
    rw [Subscription.evaluateEvent_blind, hsubscription, ← Subscription.evaluateEvent_blind]
  have hscope := s.subscription.scope.cleared_observe e now
  have hscope' := t.subscription.scope.cleared_observe e now
  have hobserved : ∀ {scope scope' : Scope}, scope.cleared = s.subscription.scope.cleared →
      scope'.cleared = t.subscription.scope.cleared →
      ({ s.subscription with scope := scope } : Subscription).blind =
        ({ t.subscription with scope := scope' } : Subscription).blind := by
    intro scope scope' hs ht
    rw [Subscription.blind_of_cleared hs, Subscription.blind_of_cleared ht, hsubscription]
  -- Either both can tell the cutoff, or neither can.
  have hok := Scope.observe_ok_iff s.subscription.scope e now
  have hok' := Scope.observe_ok_iff t.subscription.scope e now
  rw [← Scope.retention_of_cleared hcleared, ← hok] at hok'
  rcases hobserve : s.subscription.scope.observe e now with ⟨scope, result⟩
  rcases hobserve' : t.subscription.scope.observe e now with ⟨scope', result'⟩
  rw [hobserve] at hscope hok'
  rw [hobserve'] at hscope' hok'
  have hblind := hobserved hscope hscope'
  cases result with
  | error fault =>
      cases result' with
      | ok => cases hok'.mp rfl
      | error fault' =>
          rw [reactToEvent_of_fault hobserve, reactToEvent_of_fault hobserve']
          exact ⟨rfl, rfl, blind_eq h hblind⟩
  | ok =>
      cases result' with
      | error fault' => cases hok'.mpr rfl
      | ok =>
          rw [reactToEvent_of_retained hobserve, reactToEvent_of_retained hobserve', hsays]
          cases t.subscription.evaluateEvent e now with
          | none => exact ⟨rfl, rfl, blind_eq h hblind⟩
          | some u =>
              exact alike_report h
                (congrArg (fun blind : Subscription => { blind with phase := u.phase }) hblind) u

/-- Looking at subscriptions alike leaves them alike. -/
theorem blind_lookedAt {subscription subscription' : Subscription}
    (h : subscription.blind = subscription'.blind) {scope scope' : Scope}
    (hscope : scope.cleared = subscription.scope.cleared)
    (hscope' : scope'.cleared = subscription'.scope.cleared) (now : Instant) :
    (subscription.lookedAt scope now).blind = (subscription'.lookedAt scope' now).blind := by
  have hlooked : ∀ (r : Subscription) (scope : Scope), scope.cleared = r.scope.cleared →
      (r.lookedAt scope now).blind = r.blind.lookedAt r.blind.scope now := by
    intro r scope h
    show r.blind.lookedAt scope.cleared now = _
    rw [h]
    rfl
  rw [hlooked _ scope hscope, hlooked _ scope' hscope', h]

/-- Sessions alike take a tick alike. -/
theorem alike_tick (h : s.blind = t.blind) :
    (s.reactToTick now).Alike (t.reactToTick now) := by
  have hsubscription : s.subscription.blind = t.subscription.blind :=
    congrArg Session.subscription h
  have hcleared : s.subscription.scope.cleared = t.subscription.scope.cleared :=
    congrArg Subscription.scope hsubscription
  have hscope := s.subscription.scope.cleared_prune now
  have hscope' := t.subscription.scope.cleared_prune now
  -- Either both can tell the cutoff, or neither can.
  have hok := Window.prune_ok_iff s.subscription.scope.window now
  have hok' := Window.prune_ok_iff t.subscription.scope.window now
  rw [← Scope.retention_of_cleared hcleared, ← hok] at hok'
  change (t.subscription.scope.prune now).2 = .ok () ↔ (s.subscription.scope.prune now).2 = .ok ()
    at hok'
  rcases hprune : s.subscription.scope.prune now with ⟨scope, result⟩
  rcases hprune' : t.subscription.scope.prune now with ⟨scope', result'⟩
  rw [hprune] at hscope hok'
  rw [hprune'] at hscope' hok'
  cases result with
  | error fault =>
      cases result' with
      | ok => cases hok'.mp rfl
      | error fault' =>
          rw [reactToTick_of_fault hprune, reactToTick_of_fault hprune']
          refine ⟨rfl, rfl, blind_eq h ?_⟩
          rw [Subscription.blind_of_cleared hscope, Subscription.blind_of_cleared hscope',
            hsubscription]
  | ok =>
      cases result' with
      | error fault' => cases hok'.mpr rfl
      | ok =>
          have hlooked := blind_lookedAt hsubscription hscope hscope' now
          have hdeadline : s.subscription.deadline = t.subscription.deadline :=
            congrArg (fun blind => blind.deadline) hsubscription
          have hwarned : s.subscription.warned = t.subscription.warned :=
            congrArg (fun blind => blind.warned) hsubscription
          have hwarning : s.subscription.warningTime = t.subscription.warningTime :=
            congrArg (fun blind => blind.warningTime) hsubscription
          have hstalls : s.subscription.stallsAt now = t.subscription.stallsAt now :=
            congrArg (fun blind => blind.stallsAt now) hsubscription
          rw [reactToTick_eq hprune, reactToTick_eq hprune', hdeadline, hwarned, hwarning, hstalls]
          split
          · show (s.say _ _ ((s.subscription.lookedAt scope now).blind.expiredNotice now) _).Alike
              (t.say _ _ ((t.subscription.lookedAt scope' now).blind.expiredNotice now) _)
            rw [hlooked]
            exact alike_say h hlooked _ _ _
          · split
            · show (s.say _ _ ((s.subscription.lookedAt scope now).blind.warningNotice now) _).Alike
                (t.say _ _ ((t.subscription.lookedAt scope' now).blind.warningNotice now) _)
              rw [hlooked]
              exact alike_say h
                (congrArg (fun blind : Subscription => { blind with warned := true }) hlooked) _ _ _
            · exact ⟨rfl, rfl, blind_eq h hlooked⟩

/-- Sessions alike take a signal alike, unless it is a change of an undecided deployment to which
evidence makes a difference. -/
theorem take_alike (h : s.blind = t.blind) (now : Instant) (signal : Signal)
    (hshows : ∀ change, signal = .input (.resource (.change change)) →
      change.kind ≠ .deleted → change.deployment.snapshot.isDecided = false →
        s.subscription.scope.showsInstalling = t.subscription.scope.showsInstalling) :
    (s.take now signal).Alike (t.take now signal) := by
  have hsubscription : s.subscription.blind = t.subscription.blind :=
    congrArg Session.subscription h
  cases signal with
  | cancel => exact ⟨rfl, rfl, h⟩
  | input input =>
      cases input with
      | resource item =>
          cases item with
          | change change => exact alike_change h change (hshows change rfl)
          | error e =>
              show (s.reactToResource now (.error e)).Alike (t.reactToResource now (.error e))
              unfold reactToResource
              dsimp only
              split
              · exact ⟨rfl, rfl, h⟩
              · show (s.say _ _ (s.subscription.blind.watchFailedNotice e.text now) _).Alike
                  (t.say _ _ (t.subscription.blind.watchFailedNotice e.text now) _)
                rw [hsubscription]
                exact alike_say h hsubscription _ _ _
          | ended =>
              show (s.say _ _ (s.subscription.blind.watchClosedNotice now) _).Alike
                (t.say _ _ (t.subscription.blind.watchClosedNotice now) _)
              rw [hsubscription]
              exact alike_say h hsubscription _ _ _
      | event item =>
          cases item with
          | event e => exact alike_event h e
          | error e =>
              show (s.say _ _ (s.subscription.blind.eventStreamNotice e.text now) _).Alike
                (t.say _ _ (t.subscription.blind.eventStreamNotice e.text now) _)
              rw [hsubscription]
              exact alike_say h hsubscription _ _ _
          | ended =>
              exact ⟨rfl, rfl,
                congrArg (fun blind : Session => { blind with hearsEvents := false }) h⟩
      | tick => exact alike_tick h

/-! ## Foreign events -/

/-- An event out of scope that can be retained says nothing, ends nothing, and leaves a session
alike. -/
theorem take_foreign {e : Event} (hforeign : s.subscription.scope.covers e = false)
    (hnow : (now.sub? s.subscription.scope.window.retention.age).isSome = true) :
    (s.take now (.input (.event (.event e)))).Alike s.idle := by
  have hscope := s.subscription.scope.cleared_observe e now
  have hok := Scope.observe_ok e hnow
  have hsilent : s.subscription.evaluateEvent e now = none := by
    rw [Subscription.evaluateEvent, Scope.evaluate_of_not_covers _ _ _ hforeign]
    rfl
  rcases hobserve : s.subscription.scope.observe e now with ⟨scope, result⟩
  rw [hobserve] at hscope hok
  obtain rfl : result = .ok () := hok
  show (s.reactToEvent now (.event e)).Alike s.idle
  rw [reactToEvent_of_retained hobserve, hsilent]
  exact ⟨rfl, rfl, blind_eq rfl (Subscription.blind_of_cleared hscope)⟩

end Session
end ProvisionWatch

import ProvisionWatch.Proofs.Session.Core

/-!
# A deployment that is shown again

A watch that begins anew shows its deployment again, whether or not anything
happened to it.  A session that has just taken the deployment in, and goes on,
has said all that there is to say about it: shown again, it changes nothing in
the session and hands over nothing, whatever the clock reads.

Main results:

- Theorem `reflects_take`: a session that takes a change and goes on reflects it.
- Theorem `reflects_openWith`: so does one that opens and has nothing to add.
- Theorem `take_of_reflects`: to a session that reflects a deployment, seeing it
  again is nothing new.
-/

namespace ProvisionWatch

/-- The snapshot of the deployment that a change shows, unless it is a deletion. -/
def Signal.shown? : Signal → Option Snapshot
  | .input (.resource (.change change)) =>
      if change.kind = .deleted then none else some change.deployment.snapshot
  | .cancel | .input (.resource _) | .input (.event _) | .input .tick => none

theorem Signal.change_of_shown {signal : Signal} {snapshot : Snapshot}
    (h : signal.shown? = some snapshot) :
    ∃ change, signal = .input (.resource (.change change)) ∧ change.kind ≠ .deleted ∧
      change.deployment.snapshot = snapshot := by
  unfold shown? at h
  split at h
  · rename_i change
    split at h
    · cases h
    · rename_i hstays
      exact ⟨change, rfl, hstays, Option.some.inj h⟩
  all_goals cases h

namespace Subscription

/-- A subscription reflects a deployment: it has seen it last, is in the phase that the deployment
is in, which is not the last one, and has said so last. -/
structure Reflects (s : Subscription) (d : Deployment) : Prop where
  seen : s.lastSnapshot = some d.snapshot
  phase : s.phase = d.snapshot.classify s.scope.covered
  said : ∀ now, s.lastSaid = some (Update.ofSnapshot d.snapshot s.scope.covered now).said
  going : d.snapshot.isDecided = false

variable {s : Subscription} {d : Deployment} {now : Instant}

theorem applyChange_of_stays {change : Change} (hstays : change.kind ≠ .deleted) :
    s.applyChange change now =
      ({ s.withSnapshot change.deployment.snapshot now with
          phase := change.deployment.snapshot.classify s.scope.covered },
        .ofSnapshot change.deployment.snapshot s.scope.covered now) := by
  unfold applyChange
  cases hkind : change.kind with
  | deleted => exact absurd hkind hstays
  | added | modified => rfl

/-- What a subscription has once it has delivered what an undecided deployment says. -/
theorem reflects_deliver (hgoing : d.snapshot.isDecided = false) :
    (({ s.withSnapshot d.snapshot now with
        phase := d.snapshot.classify s.scope.covered } : Subscription).deliver
      (.ofSnapshot d.snapshot s.scope.covered now)).1.Reflects d := by
  rw [deliver_eq]
  exact ⟨rfl, rfl, fun _ => rfl, hgoing⟩

/-- A snapshot that was seen last changes nothing, the clock of stalls included. -/
theorem withSnapshot_self {snapshot : Snapshot} (h : s.lastSnapshot = some snapshot) :
    s.withSnapshot snapshot now = s := by
  have hsame : (s.lastSnapshot.any fun last => last.conditions == snapshot.conditions) = true := by
    rw [h, Option.any_some]
    exact beq_self_eq_true _
  rw [withSnapshot, hsame]
  show ({ s with lastSnapshot := some snapshot } : Subscription) = s
  rw [← h]

/-- What a subscription that reflects a deployment would say of it is no news. -/
theorem deliver_of_reflects (h : s.Reflects d) :
    s.deliver (.ofSnapshot d.snapshot s.scope.covered now) =
      (s, .coalesced (.ofSnapshot d.snapshot s.scope.covered now)) := by
  have hquiet : ¬ s.shouldOffer (.ofSnapshot d.snapshot s.scope.covered now) = true := by
    rw [shouldOffer_iff, Update.terminal_ofSnapshot, h.going, h.said now]
    simp
  rw [deliver, if_neg hquiet]

/-- A session that opens, goes on, and has nothing to add to its first update reflects the fetched
deployment. -/
theorem reflects_openWith {listed : List Event} {limit : Nat} {hearsEvents : Bool} {o : Opening}
    (h : s.openWith d listed limit hearsEvents now = .ok o) (hgoing : o.finished = false)
    (hsilent : o.effects.length = 1) : o.session.subscription.Reflects d := by
  cases openWith_starts h with
  | finished seeded newest seeds terminal => cases hgoing
  | silent seeded newest seeds going =>
      rw [openFirst_eq, deliver_update, Update.terminal_ofSnapshot] at going
      exact reflects_deliver going
  | replayed seeded e u seeds going evaluates moves => cases hsilent

end Subscription

namespace Session

variable {s : Session} {d : Deployment} {now : Instant} {signal : Signal}

/-- A session that takes in a deployment and goes on reflects it. -/
theorem reflects_take (hshown : signal.shown? = some d.snapshot)
    (hgoing : (s.take now signal).ending = none) :
    (s.take now signal).session.subscription.Reflects d := by
  obtain ⟨change, rfl, hstays, hsame⟩ := Signal.change_of_shown hshown
  have htake : s.take now (.input (.resource (.change change))) =
      s.report { s.subscription.withSnapshot d.snapshot now with
          phase := d.snapshot.classify s.subscription.scope.covered }
        (.ofSnapshot d.snapshot s.subscription.scope.covered now) := by
    rw [take, react, reactToResource, Subscription.applyChange_of_stays hstays, hsame]
  rw [htake] at hgoing ⊢
  refine Subscription.reflects_deliver ?_
  rw [← Update.terminal_ofSnapshot _ s.subscription.scope.covered now, ← Bool.not_eq_true,
    ← react_delivered_last s, hgoing]
  nofun

/-- To a session that reflects a deployment, seeing it again is nothing new. -/
theorem take_of_reflects (hreflects : s.subscription.Reflects d)
    (hshown : signal.shown? = some d.snapshot) :
    s.take now signal =
      { session := s
        effects :=
          [.delivery (.coalesced (.ofSnapshot d.snapshot s.subscription.scope.covered now))]
        ending := none } := by
  obtain ⟨change, rfl, hstays, hsame⟩ := Signal.change_of_shown hshown
  have hsubscription : ({ s.subscription with
      phase := d.snapshot.classify s.subscription.scope.covered } : Subscription) =
        s.subscription := by
    rw [← hreflects.phase]
  have hgoing : (Update.ofSnapshot d.snapshot s.subscription.scope.covered now).terminal =
      false := by
    rw [Update.terminal_ofSnapshot]
    exact hreflects.going
  rw [take, react, reactToResource, Subscription.applyChange_of_stays hstays, hsame,
    Subscription.withSnapshot_self hreflects.seen]
  dsimp only
  rw [hsubscription, report, hgoing, say, Subscription.deliver_of_reflects hreflects]
  rfl

end Session
end ProvisionWatch

import ProvisionWatch.Proofs.Session.Core
import ProvisionWatch.Proofs.Session.InStep

/-!
# The context of what a session says

Every update shows a snapshot: the cluster it is about, its conditions and its
services.  A change brings a snapshot, unless it is a deletion.  A session shows
the snapshot that was brought last, from its opening on, whatever makes it speak;
what it says of itself brings none and shows what was known before.

Main results:

- Theorem `take_informed`: what a session says after a signal shows the latest
  snapshot, and the session remembers it.
- Theorem `source_of_snapshot?`: a signal that brings a snapshot is no occasion
  for a notice of the monitor itself.
- Theorem `openWith_informed`: what a session says as it opens shows the fetched
  deployment.
-/

namespace ProvisionWatch

/-! ## What is brought and what is shown -/

/-- The snapshot that a change brings.  A deletion brings none. -/
def Change.snapshot? (c : Change) : Option Snapshot :=
  match c.kind with
  | .deleted => none
  | .added | .modified => some c.deployment.snapshot

/-- The snapshot that a signal brings. -/
def Signal.snapshot? : Signal → Option Snapshot
  | input (.resource (.change c)) => c.snapshot?
  | input _ | cancel => none

/-- Only a change that is no deletion brings a snapshot: that of its deployment. -/
theorem Signal.change_of_snapshot? {signal : Signal} {snapshot : Snapshot}
    (h : signal.snapshot? = some snapshot) :
    ∃ c : Change, signal = .input (.resource (.change c)) ∧ c.kind ≠ .deleted ∧
      c.deployment.snapshot = snapshot := by
  cases signal with
  | cancel => cases h
  | input input =>
      cases input with
      | event item => cases h
      | tick => cases h
      | resource item =>
          cases item with
          | error e => cases h
          | ended => cases h
          | change c =>
              obtain ⟨d, kind⟩ := c
              cases kind with
              | deleted => cases h
              | added | modified => exact ⟨_, rfl, nofun, Option.some.inj h⟩

/-- An update shows a snapshot: it names its cluster, and has its conditions and services. -/
structure Update.Shows (u : Update) (s : Snapshot) : Prop where
  cluster : u.cluster = some s.cluster
  conditions : u.conditions = s.conditions
  services : u.services = s.services

theorem Update.shows_ofSnapshot (s : Snapshot) (events : List Event) (now : Instant) :
    (Update.ofSnapshot s events now).Shows s :=
  ⟨rfl, rfl, rfl⟩

/-- Every update among some effects, offered or not, shows a snapshot. -/
def EffectsShow (known : Snapshot) (effects : List Effect) : Prop :=
  ∀ d, .delivery d ∈ effects → d.update.Shows known

namespace Subscription

variable {s : Subscription} {known : Snapshot}

/-- A notice of the monitor itself shows what is known. -/
theorem shows_notice (h : s.lastSnapshot = some known) (message reason : String)
    (severity : Severity) (now : Instant) : (s.notice message reason severity now).Shows known := by
  obtain ⟨hcluster, hconditions, hservices⟩ := s.notice_withContext message reason severity now h
  exact ⟨hcluster, hconditions, hservices⟩

/-- So does a notice that ends the stream. -/
theorem shows_farewell (h : s.lastSnapshot = some known) (message reason : String)
    (severity : Severity) (now : Instant) :
    (s.notice message reason severity now).ending.Shows known := by
  obtain ⟨hcluster, hconditions, hservices⟩ := s.shows_notice h message reason severity now
  exact ⟨hcluster, hconditions, hservices⟩

/-- What an event says shows what is known: it does not have to do with nothing. -/
theorem shows_evaluateEvent (h : s.lastSnapshot = some known) {e : Event} {now : Instant}
    {u : Update} (hu : s.evaluateEvent e now = some u) : u.Shows known := by
  obtain ⟨evaluation, -, rfl⟩ := Option.map_eq_some_iff.mp hu
  rw [h]
  exact ⟨rfl, rfl, rfl⟩

theorem source_evaluateEvent {e : Event} {now : Instant} {u : Update}
    (hu : s.evaluateEvent e now = some u) : u.source = .event := by
  obtain ⟨evaluation, -, rfl⟩ := Option.map_eq_some_iff.mp hu
  rfl

end Subscription

/-! ## Signals -/

namespace Session

/-- All that a reaction says shows a snapshot, and the session remembers that one. -/
structure Informed (known : Snapshot) (r : Reaction) : Prop where
  shows : EffectsShow known r.effects
  last : r.session.subscription.lastSnapshot = some known

variable {s : Session} {now : Instant} {known : Snapshot} {subscription : Subscription}
variable {before : List Effect} {u : Update}

/-- What a session delivers is the last of its effects. -/
theorem update_of_say (hbefore : ∀ e ∈ before, e.isDelivery = false) {ending : Option Ending}
    {d : Delivery} (hd : .delivery d ∈ (s.say subscription before u ending).effects) :
    d.update = u := by
  rcases List.mem_append.mp hd with hearlier | hlast
  · cases hbefore _ hearlier
  · obtain rfl := Effect.delivery.inj (List.mem_singleton.mp hlast)
    exact subscription.deliver_update u

theorem informed_say (hbefore : ∀ e ∈ before, e.isDelivery = false)
    (hlast : subscription.lastSnapshot = some known) (hshows : u.Shows known)
    (ending : Option Ending) : Informed known (s.say subscription before u ending) where
  shows := by
    intro d hd
    rw [update_of_say hbefore hd]
    exact hshows
  last := by
    rw [lastSnapshot_say]
    exact hlast

/-- A reaction that says nothing and forgets nothing. -/
theorem informed_silent {r : Reaction} (hsilent : ∀ e ∈ r.effects, e.isDelivery = false)
    (hlast : r.session.subscription.lastSnapshot = some known) : Informed known r :=
  ⟨fun _ hd => absurd (hsilent _ hd) (by simp [Effect.isDelivery]), hlast⟩

theorem informed_resource (h : s.subscription.lastSnapshot = some known) (item : ResourceItem) :
    Informed ((Signal.input (.resource item)).snapshot?.getD known)
      (s.reactToResource now item) := by
  have hnothing : ∀ e ∈ ([] : List Effect), e.isDelivery = false := List.forall_mem_nil _
  cases item with
  | change change =>
      obtain ⟨d, kind⟩ := change
      cases kind with
      | added | modified => exact informed_say hnothing rfl (Update.shows_ofSnapshot _ _ _) _
      | deleted => exact informed_say hnothing h (s.subscription.shows_farewell h _ _ _ now) _
  | error e =>
      have hseen : ∀ f ∈ [Effect.watchError .resource e.recordedKind], f.isDelivery = false := by
        simp [Effect.isDelivery]
      show Informed known (s.reactToResource now (.error e))
      unfold reactToResource
      dsimp only
      split
      · exact informed_silent hseen h
      · exact informed_say hseen h (s.subscription.shows_farewell h _ _ _ now) _
  | ended => exact informed_say hnothing h (s.subscription.shows_farewell h _ _ _ now) _

theorem informed_event (h : s.subscription.lastSnapshot = some known) (item : EventItem) :
    Informed known (s.reactToEvent now item) := by
  cases item with
  | event e =>
      have hhears := s.reactToEvent_hears now e
      generalize s.reactToEvent now (.event e) = r at hhears ⊢
      cases hhears with
      | brokeDown scope fault observes => exact informed_silent (List.forall_mem_nil _) h
      | silent scope observes evaluates => exact informed_silent (List.forall_mem_nil _) h
      | spoken scope u observes evaluates =>
          refine informed_say (List.forall_mem_nil _) ?_ ?_ _
          · exact h
          · exact Subscription.shows_evaluateEvent h evaluates
  | error e =>
      refine informed_say (by simp [Effect.isDelivery]) h ?_ none
      exact s.subscription.shows_notice h _ _ _ now
  | ended => exact informed_silent (List.forall_mem_nil _) h

theorem informed_tick (h : s.subscription.lastSnapshot = some known) :
    Informed known (s.reactToTick now) := by
  have hlooked : ∀ scope, (s.subscription.lookedAt scope now).lastSnapshot = some known :=
    fun _ => h
  have hticks := s.reactToTick_ticks now
  generalize s.reactToTick now = r at hticks ⊢
  cases hticks with
  | brokeDown scope fault prunes => exact informed_silent (List.forall_mem_nil _) h
  | expired scope prunes deadline =>
      exact informed_say (isDelivery_stallEffects _) (hlooked scope)
        (Subscription.shows_farewell (hlooked scope) _ _ _ now) _
  | warned scope prunes deadline unwarned warning =>
      refine informed_say (isDelivery_stallEffects _) ?_ ?_ none
      · exact hlooked scope
      · exact Subscription.shows_notice (hlooked scope) _ _ _ now
  | quiet scope prunes deadline early =>
      exact informed_silent (isDelivery_stallEffects _) (hlooked scope)

/-- What a session says after a signal shows the snapshot that the signal brings, or else the one
that was known. -/
theorem take_informed (h : s.subscription.lastSnapshot = some known) (now : Instant)
    (signal : Signal) :
    Informed (signal.snapshot?.getD known) (s.take now signal) := by
  cases signal with
  | cancel => exact informed_silent (List.forall_mem_nil _) h
  | input input =>
      cases input with
      | resource item => exact informed_resource h item
      | event item => exact informed_event h item
      | tick => exact informed_tick h

/-- A signal that brings a snapshot makes the session say what follows from it, and nothing of the
session itself. -/
theorem source_of_snapshot? {signal : Signal} {snapshot : Snapshot}
    (hbrings : signal.snapshot? = some snapshot) {d : Delivery}
    (hd : .delivery d ∈ (s.take now signal).effects) : d.update.source = .condition := by
  obtain ⟨c, rfl, hkind, -⟩ := Signal.change_of_snapshot? hbrings
  obtain ⟨fetched, kind⟩ := c
  cases kind with
  | deleted => exact absurd rfl hkind
  | added | modified => exact congrArg Update.source (update_of_say (List.forall_mem_nil _) hd)

/-- All that a deletion makes a session say is that the deployment was deleted. -/
theorem notice_of_deleted {d : Deployment} {e : Delivery}
    (he : .delivery e ∈ (s.take now (.input (.resource (.change ⟨d, .deleted⟩)))).effects) :
    e.update.source = .system ∧ e.update.reason = "ResourceDeleted" := by
  rw [update_of_say (List.forall_mem_nil _) he]
  exact ⟨Subscription.notice_source _ _ _ _ now, Subscription.notice_reason _ _ _ _ now⟩

end Session

/-! ## Openings -/

namespace Subscription

@[simp]
theorem lastSnapshot_openFirst (s : Subscription) (d : Deployment) (now : Instant) :
    (s.openFirst d now).1.lastSnapshot = some d.snapshot := by
  rw [openFirst_eq, deliver_eq]
  rfl

/-- What a session says as it opens shows the fetched deployment, is none of its notices, and the
session remembers that deployment. -/
theorem openWith_informed {s : Subscription} {d : Deployment} {listed : List Event} {limit : Nat}
    {hearsEvents : Bool} {now : Instant} {o : Opening}
    (h : s.openWith d listed limit hearsEvents now = .ok o) :
    o.session.subscription.lastSnapshot = some d.snapshot ∧ EffectsShow d.snapshot o.effects ∧
      ∀ delivery, .delivery delivery ∈ o.effects → delivery.update.source ≠ .system := by
  have hfirst : ∀ seeded : Subscription, (seeded.openFirst d now).2.update.Shows d.snapshot ∧
      (seeded.openFirst d now).2.update.source ≠ .system := by
    intro seeded
    rw [openFirst_eq, deliver_update]
    exact ⟨Update.shows_ofSnapshot _ _ _, nofun⟩
  have hknown := fun seeded : Subscription => seeded.lastSnapshot_openFirst d now
  cases openWith_starts h with
  | finished seeded newest seeds terminal | silent seeded newest seeds going =>
      refine ⟨hknown seeded, fun e he => ?_, fun e he => ?_⟩
      · obtain rfl := Effect.delivery.inj (List.mem_singleton.mp he)
        exact (hfirst seeded).1
      · obtain rfl := Effect.delivery.inj (List.mem_singleton.mp he)
        exact (hfirst seeded).2
  | replayed seeded e u seeds going evaluates moves =>
      refine ⟨?_, fun f hf => ?_, fun f hf => ?_⟩
      · rw [deliver_eq]
        exact hknown seeded
      · rcases List.mem_cons.mp hf with hf | hf
        · obtain rfl := Effect.delivery.inj hf
          exact (hfirst seeded).1
        · obtain rfl := Effect.delivery.inj (List.mem_singleton.mp hf)
          rw [deliver_update]
          exact shows_evaluateEvent (hknown seeded) evaluates
      · rcases List.mem_cons.mp hf with hf | hf
        · obtain rfl := Effect.delivery.inj hf
          exact (hfirst seeded).2
        · obtain rfl := Effect.delivery.inj (List.mem_singleton.mp hf)
          rw [deliver_update, source_evaluateEvent evaluates]
          exact nofun

end Subscription
end ProvisionWatch

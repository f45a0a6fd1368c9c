import ProvisionWatch.Proofs.Session.Endings
import ProvisionWatch.Proofs.Subscription.Coalescing

/-!
# The phase that an observer knows

The phase of a subscription moves whenever it takes something in, and what it
says may be held back.  But it is held back only where it repeats the phase that
was said last, so an observer who saw all that was handed over knows the phase
at any time: it is that of the last update he saw.

Main results:

- Theorem `inStep_deliver`: a subscription that says its phase is in step
  afterwards, whether or not the update is handed over.
- Theorem `take_keepsStep`: every signal keeps a session in step, also the one
  that ends it.
- Theorem `openWith_keepsStep`: a session is in step as soon as it is open.
-/

namespace ProvisionWatch

/-! ## What was handed over -/

/-- Whether an effect is the delivery of an update. -/
def Effect.isDelivery : Effect → Bool
  | delivery _ => true
  | watchError _ _ | stall => false

/-- Effects follow what was handed over before: each update among them is handed over exactly if it
is news after the last one that was. -/
def EffectsFollow (said : List Update) : List Effect → Prop
  | [] => True
  | .delivery d :: rest =>
      d = (if d.update.IsNewsAfter said.getLast? then .offered d.update else .coalesced d.update) ∧
        EffectsFollow (said ++ d.offered?.toList) rest
  | .watchError _ _ :: rest | .stall :: rest => EffectsFollow said rest

/-- A subscription remembers the last update that was handed over, and is in its phase. -/
structure Subscription.InStep (s : Subscription) (said : List Update) : Prop where
  lastSaid : s.lastSaid = said.getLast?.map Update.said
  phase : said.getLast?.map Update.phase = some s.phase

/-- A reaction is right after what was handed over before, and leaves the session in step. -/
structure Reaction.KeepsStep (said : List Update) (r : Reaction) : Prop where
  effects : EffectsFollow said r.effects
  inStep : r.session.subscription.InStep (said ++ r.updates)

section Silent

variable {before : List Effect} (hbefore : ∀ e ∈ before, e.isDelivery = false)
include hbefore

/-- What is no delivery hands nothing over. -/
theorem offeredUpdates_of_silent : offeredUpdates before = [] := by
  refine List.filterMap_eq_nil_iff.mpr fun e he => ?_
  have hsilent := hbefore e he
  cases e with
  | delivery d => cases hsilent
  | watchError | stall => rfl

/-- What is no delivery leaves open what follows. -/
theorem effectsFollow_append_of_silent {said : List Update} {effects : List Effect}
    (h : EffectsFollow said effects) : EffectsFollow said (before ++ effects) := by
  induction before with
  | nil => exact h
  | cons e rest ih =>
      have hsilent := hbefore e List.mem_cons_self
      have hrest := ih fun f hf => hbefore f (List.mem_cons_of_mem _ hf)
      cases e with
      | delivery d => cases hsilent
      | watchError | stall => exact hrest

end Silent

theorem isDelivery_stallEffects (stalled : Bool) :
    ∀ e ∈ Session.stallEffects stalled, e.isDelivery = false := by
  cases stalled <;> simp [Session.stallEffects, Effect.isDelivery]

/-! ## Deliveries -/

namespace Subscription

variable {s : Subscription} {said : List Update} {u : Update}

/-- Delivering an update changes no phase. -/
@[simp]
theorem phase_deliver (s : Subscription) (u : Update) : (s.deliver u).1.phase = s.phase := by
  rw [deliver_eq]

theorem effectsFollow_deliver (h : s.lastSaid = said.getLast?.map Update.said) (u : Update) :
    EffectsFollow said [.delivery (s.deliver u).2] := by
  refine ⟨?_, trivial⟩
  rw [deliver_update]
  exact deliver_eq_of_lastSaid h u

/-- A subscription that says its phase is in step afterwards: what it holds back repeats the phase
that was said last. -/
theorem inStep_deliver (h : s.lastSaid = said.getLast?.map Update.said)
    (hphase : u.phase = s.phase) :
    (s.deliver u).1.InStep (said ++ (s.deliver u).2.offered?.toList) := by
  have hsaid : (s.deliver u).1.lastSaid = some u.said := s.deliver_lastSaid u
  by_cases hnews : u.IsNewsAfter said.getLast?
  · have hlast : (said ++ (s.deliver u).2.offered?.toList).getLast? = some u := by
      rw [deliver_eq_of_lastSaid h, if_pos hnews]
      exact List.getLast?_concat
    refine ⟨?_, ?_⟩
    · rw [hsaid, hlast]
      rfl
    · rw [hlast, phase_deliver, ← hphase]
      rfl
  · have hlast : (said ++ (s.deliver u).2.offered?.toList).getLast? = said.getLast? := by
      rw [deliver_eq_of_lastSaid h, if_neg hnews]
      exact congrArg List.getLast? (List.append_nil said)
    have hrepeats : said.getLast?.map Update.said = some u.said := by
      rw [← shouldOffer_iff_isNewsAfter h, shouldOffer_iff, h, not_or, not_not] at hnews
      exact hnews.2
    obtain ⟨v, hv, hvsaid⟩ := Option.map_eq_some_iff.mp hrepeats
    refine ⟨?_, ?_⟩
    · rw [hsaid, hlast, hrepeats]
    · rw [hlast, phase_deliver, ← hphase, hv]
      exact congrArg (fun said => some said.phase) hvsaid

end Subscription

/-! ## Reactions -/

namespace Session

variable {s : Session} {subscription : Subscription} {said : List Update} {before : List Effect}
variable {u : Update}

/-- A session that says its phase is in step afterwards. -/
theorem keepsStep_say (hbefore : ∀ e ∈ before, e.isDelivery = false)
    (hlast : subscription.lastSaid = said.getLast?.map Update.said)
    (hphase : u.phase = subscription.phase) (ending : Option Ending) :
    Reaction.KeepsStep said (s.say subscription before u ending) where
  effects := effectsFollow_append_of_silent hbefore (Subscription.effectsFollow_deliver hlast u)
  inStep := by
    rw [updates_say (offeredUpdates_of_silent hbefore)]
    exact Subscription.inStep_deliver hlast hphase

theorem keepsStep_report (hlast : subscription.lastSaid = said.getLast?.map Update.said)
    (hphase : u.phase = subscription.phase) :
    Reaction.KeepsStep said (s.report subscription u) :=
  keepsStep_say (List.forall_mem_nil _) hlast hphase _

/-- A session that says nothing stays in step as long as its phase stays. -/
theorem keepsStep_of_silent {r : Reaction} (h : s.subscription.InStep said)
    (heffects : ∀ e ∈ r.effects, e.isDelivery = false)
    (hlast : r.session.subscription.lastSaid = s.subscription.lastSaid)
    (hphase : r.session.subscription.phase = s.subscription.phase) : r.KeepsStep said := by
  have hsaid : said ++ r.updates = said := by
    rw [Reaction.updates, offeredUpdates_of_silent heffects, List.append_nil]
  refine ⟨?_, ?_, ?_⟩
  · have hall : EffectsFollow said (r.effects ++ []) :=
      effectsFollow_append_of_silent heffects trivial
    rwa [List.append_nil] at hall
  · rw [hlast, hsaid]
    exact h.lastSaid
  · rw [hphase, hsaid]
    exact h.phase

/-- A change is said in the phase that it leaves. -/
theorem phase_applyChange (s : Subscription) (change : Change) (now : Instant) :
    (s.applyChange change now).2.phase = (s.applyChange change now).1.phase := by
  unfold Subscription.applyChange
  split
  · exact Subscription.notice_phase s _ _ _ now
  · rfl
  · rfl

theorem reactToResource_keepsStep (h : s.subscription.InStep said) (now : Instant)
    (item : ResourceItem) : (s.reactToResource now item).KeepsStep said := by
  cases item with
  | change change =>
      refine keepsStep_report ?_ (phase_applyChange s.subscription change now)
      have hkept : (s.subscription.perform now (.change change)).1.lastSaid =
          s.subscription.lastSaid :=
        s.subscription.lastSaid_perform now rfl
      exact hkept.trans h.lastSaid
  | error e =>
      unfold reactToResource
      simp only
      split
      · exact keepsStep_of_silent h (List.forall_mem_singleton.mpr rfl) rfl rfl
      · refine keepsStep_say (List.forall_mem_singleton.mpr rfl) h.lastSaid ?_ _
        exact Subscription.notice_phase s.subscription _ _ _ now
  | ended =>
      refine keepsStep_say (List.forall_mem_nil _) h.lastSaid ?_ _
      exact Subscription.notice_phase s.subscription _ _ _ now

theorem reactToEvent_keepsStep (h : s.subscription.InStep said) (now : Instant)
    (item : EventItem) : (s.reactToEvent now item).KeepsStep said := by
  cases item with
  | event e =>
      have hhears := s.reactToEvent_hears now e
      generalize s.reactToEvent now (.event e) = r at hhears ⊢
      cases hhears with
      | brokeDown scope fault observes =>
          exact keepsStep_of_silent h (List.forall_mem_nil _) rfl rfl
      | silent scope observes evaluates =>
          exact keepsStep_of_silent h (List.forall_mem_nil _) rfl rfl
      | spoken scope u observes evaluates => exact keepsStep_report h.lastSaid rfl
  | error e =>
      refine keepsStep_say (List.forall_mem_singleton.mpr rfl) h.lastSaid ?_ _
      exact Subscription.notice_phase s.subscription _ _ _ now
  | ended => exact keepsStep_of_silent h (List.forall_mem_nil _) rfl rfl

theorem reactToTick_keepsStep (h : s.subscription.InStep said) (now : Instant) :
    (s.reactToTick now).KeepsStep said := by
  have hticks := s.reactToTick_ticks now
  generalize s.reactToTick now = r at hticks ⊢
  cases hticks with
  | brokeDown scope fault prunes =>
      exact keepsStep_of_silent h (List.forall_mem_nil _) rfl rfl
  | expired scope prunes deadline =>
      refine keepsStep_say (isDelivery_stallEffects _) ?_ ?_ _
      · exact h.lastSaid
      · exact Subscription.notice_phase (s.subscription.lookedAt scope now) _ _ _ now
  | warned scope prunes deadline unwarned warning =>
      refine keepsStep_say (isDelivery_stallEffects _) ?_ ?_ _
      · exact h.lastSaid
      · exact Subscription.notice_phase (s.subscription.lookedAt scope now) _ _ _ now
  | quiet scope prunes deadline early =>
      exact keepsStep_of_silent h (isDelivery_stallEffects _) rfl rfl

/-- Every signal keeps a session in step, also the one that ends it. -/
theorem take_keepsStep (h : s.subscription.InStep said) (now : Instant) (signal : Signal) :
    (s.take now signal).KeepsStep said := by
  cases signal with
  | cancel => exact keepsStep_of_silent h (List.forall_mem_nil _) rfl rfl
  | input input =>
      cases input with
      | resource item => exact reactToResource_keepsStep h now item
      | event item => exact reactToEvent_keepsStep h now item
      | tick => exact reactToTick_keepsStep h now

end Session

/-! ## Openings -/

namespace Subscription

/-- The first update of a subscription brings it in step with its observer. -/
theorem openFirst_inStep {s : Subscription} (hsilent : s.lastSaid = none) (d : Deployment)
    (now : Instant) :
    EffectsFollow [] [.delivery (s.openFirst d now).2] ∧
      (s.openFirst d now).1.InStep (s.openFirst d now).2.offered?.toList := by
  rw [openFirst_eq]
  refine ⟨effectsFollow_deliver hsilent _, ?_⟩
  rw [← List.nil_append (Option.toList _)]
  exact inStep_deliver hsilent rfl

/-- A session that said nothing before is in step as soon as it is open, whether or not a listed
event spoke up. -/
theorem openWith_keepsStep {s : Subscription} (hsilent : s.lastSaid = none) {d : Deployment}
    {listed : List Event} {limit : Nat} {hearsEvents : Bool} {now : Instant} {o : Opening}
    (h : s.openWith d listed limit hearsEvents now = .ok o) :
    EffectsFollow [] o.effects ∧ o.session.subscription.InStep (offeredUpdates o.effects) := by
  have hfirst : ∀ {seeded : Subscription} {result : Except RangeFault (Option Event)},
      s.seed listed limit now = (seeded, result) →
        EffectsFollow [] [.delivery (seeded.openFirst d now).2] ∧
          (seeded.openFirst d now).1.InStep (seeded.openFirst d now).2.offered?.toList := by
    intro seeded result seeds
    obtain ⟨scope, -, rfl⟩ := seed_eq seeds
    exact openFirst_inStep (s := { s with scope := scope }) hsilent d now
  have hone : ∀ delivery : Delivery,
      offeredUpdates [Effect.delivery delivery] = delivery.offered?.toList := by
    intro delivery
    cases delivery <;> rfl
  cases openWith_starts h with
  | finished seeded newest seeds terminal | silent seeded newest seeds going =>
      rw [hone]
      exact hfirst seeds
  | replayed seeded e u seeds going evaluates moves =>
      obtain ⟨heffects, hinStep⟩ := hfirst seeds
      let moved : Subscription := { (seeded.openFirst d now).1 with phase := u.phase }
      have hlast : moved.lastSaid =
          (seeded.openFirst d now).2.offered?.toList.getLast?.map Update.said :=
        hinStep.lastSaid
      refine ⟨⟨heffects.1, effectsFollow_deliver hlast u⟩, ?_⟩
      have htwo := offeredUpdates_append [.delivery (seeded.openFirst d now).2]
        [.delivery (moved.deliver u).2]
      rw [hone, hone] at htwo
      show (moved.deliver u).1.InStep (offeredUpdates
        ([Effect.delivery (seeded.openFirst d now).2] ++ [.delivery (moved.deliver u).2]))
      rw [htwo]
      exact inStep_deliver hlast rfl

end Subscription
end ProvisionWatch

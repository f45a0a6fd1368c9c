import Mathlib.Data.List.Forall2
import ProvisionWatch.Manager.Counting
import ProvisionWatch.Proofs.Subscription.Cutoff

/-!
# Coalescing

A subscription remembers what it said last, and not the updates themselves.  An
update that is held back says what was said last, so what is remembered is always
what the last update said, handed over or not.  Over a whole stream an update is
therefore compared with the one before it.

Main results:

- Theorem `deliver_eq_of_lastSaid`: what becomes of an update is decided by the
  one before it.
- Theorem `lastSaid_perform`: no other task touches what was said last.
- Theorem `deliveries_coalesce`: over a whole stream exactly the news is handed
  over, all else is counted as coalesced, and only a terminal update ends it.
-/

namespace ProvisionWatch

/-! ## News -/

namespace Update

/-- An update is news after the one before it, if there was one: it is terminal, or it says
something else. -/
def IsNewsAfter (u : Update) : Option Update → Prop
  | none => True
  | some v =>
      u.terminal = true ∨ u.phase ≠ v.phase ∨ u.message ≠ v.message ∨ u.reason ≠ v.reason

instance (u : Update) : (before : Option Update) → Decidable (u.IsNewsAfter before)
  | none => inferInstanceAs (Decidable True)
  | some v => inferInstanceAs (Decidable (u.terminal = true ∨ u.phase ≠ v.phase ∨
      u.message ≠ v.message ∨ u.reason ≠ v.reason))

/-- Updates in order, each beside the one before it. -/
def besidePrevious (before : Option Update) : List Update → List (Update × Option Update)
  | [] => []
  | u :: rest => (u, before) :: besidePrevious (some u) rest

theorem said_eq_iff (u v : Update) :
    u.said = v.said ↔ u.phase = v.phase ∧ u.message = v.message ∧ u.reason = v.reason := by
  rw [said, said, Said.mk.injEq]

end Update

namespace Subscription

/-- An update is offered exactly if it is news after the one whose content was said last. -/
theorem shouldOffer_iff_isNewsAfter {s : Subscription} {before : Option Update}
    (h : s.lastSaid = before.map Update.said) (u : Update) :
    s.shouldOffer u = true ↔ u.IsNewsAfter before := by
  rw [shouldOffer_iff, h]
  cases before with
  | none => simp [Update.IsNewsAfter]
  | some v =>
      have hsaid : some v.said ≠ some u.said ↔
          u.phase ≠ v.phase ∨ u.message ≠ v.message ∨ u.reason ≠ v.reason := by
        rw [Ne, Option.some.injEq, eq_comm, Update.said_eq_iff, not_and_or, not_and_or]
      rw [Option.map_some, hsaid, Update.IsNewsAfter]

/-- What becomes of an update is decided by the one before it. -/
theorem deliver_eq_of_lastSaid {s : Subscription} {before : Option Update}
    (h : s.lastSaid = before.map Update.said) (u : Update) :
    (s.deliver u).2 = if u.IsNewsAfter before then .offered u else .coalesced u := by
  unfold deliver
  by_cases hnews : u.IsNewsAfter before
  · rw [if_pos ((shouldOffer_iff_isNewsAfter h u).mpr hnews), if_pos hnews]
  · rw [if_neg fun hoffer => hnews ((shouldOffer_iff_isNewsAfter h u).mp hoffer), if_neg hnews]

/-! ## Between deliveries -/

/-- The update that a task delivers. -/
def Task.update? : Task → Option Update
  | deliver u => some u
  | seed _ _ | change _ | event _ | replay _ | tick => none

/-- Taking in an event leaves what was said last. -/
@[simp]
theorem lastSaid_applyEvent (s : Subscription) (e : Event) (now : Instant) :
    (s.applyEvent e now).1.lastSaid = s.lastSaid := by
  unfold applyEvent
  split
  · cases s.evaluateEvent e now <;> rfl
  · rfl

/-- A tick leaves what was said last. -/
@[simp]
theorem lastSaid_tick (s : Subscription) (now : Instant) :
    (s.tick now).1.lastSaid = s.lastSaid := by
  unfold tick
  split
  · rfl
  · unfold checkDeadline
    dsimp only
    split
    · rfl
    · split <;> rfl

/-- A task that delivers nothing leaves what was said last. -/
theorem lastSaid_perform (s : Subscription) (now : Instant) {task : Task}
    (h : task.update? = none) : (s.perform now task).1.lastSaid = s.lastSaid := by
  cases task with
  | seed listed limit =>
      rcases hseed : s.seed listed limit now with ⟨seeded, result⟩
      obtain ⟨scope, -, rfl⟩ := seed_eq hseed
      rw [perform, hseed]
  | change change => cases hkind : change.kind <;> simp [perform, applyChange, hkind]
  | event e => exact s.lastSaid_applyEvent e now
  | replay e => simp [perform, replayEvent]
  | tick => exact s.lastSaid_tick now
  | deliver u => cases h

/-- The updates that tasks deliver, in order. -/
def delivered (done : List (Instant × Task)) : List Update :=
  done.filterMap fun timed => timed.2.update?

end Subscription

namespace Session

/-- Do tasks in order, and collect how the session reacts to the updates among them. -/
def reports (s : Session) : List (Instant × Subscription.Task) → List Reaction
  | [] => []
  | (now, task) :: rest =>
      match task.update? with
      | some u => s.report s.subscription u :: (s.report s.subscription u).session.reports rest
      | none => reports { s with subscription := (s.subscription.perform now task).1 } rest

/-- Only a terminal update ends the session, whether or not it is handed over. -/
theorem endings_reports (s : Session) (done : List (Instant × Subscription.Task)) :
    (s.reports done).map Reaction.ending =
      (Subscription.delivered done).map fun u => if u.terminal then some .terminal else none := by
  induction done generalizing s with
  | nil => rfl
  | cons timed rest ih =>
      obtain ⟨now, task⟩ := timed
      unfold reports Subscription.delivered
      rw [List.filterMap_cons]
      cases task.update? with
      | none => exact ih _
      | some u => exact congrArg (_ :: ·) (ih _)

/-- The effects of a stream: each update is handed over if it is news after the one before it, and
held back otherwise. -/
theorem effects_reports {s : Session} {before : Option Update}
    (h : s.subscription.lastSaid = before.map Update.said)
    (done : List (Instant × Subscription.Task)) :
    (s.reports done).flatMap Reaction.effects =
      (Update.besidePrevious before (Subscription.delivered done)).map fun p =>
        .delivery (if p.1.IsNewsAfter p.2 then .offered p.1 else .coalesced p.1) := by
  induction done generalizing s before with
  | nil => rfl
  | cons timed rest ih =>
      obtain ⟨now, task⟩ := timed
      unfold reports Subscription.delivered
      rw [List.filterMap_cons]
      cases hupdate : task.update? with
      | none =>
          refine ih ?_
          rw [← h]
          exact s.subscription.lastSaid_perform now hupdate
      | some u =>
          have hrest : (s.report s.subscription u).session.subscription.lastSaid =
              (some u).map Update.said :=
            s.subscription.deliver_lastSaid u
          have hfirst : (s.report s.subscription u).effects =
              [.delivery (if u.IsNewsAfter before then .offered u else .coalesced u)] := by
            rw [← Subscription.deliver_eq_of_lastSaid h u]
            rfl
          rw [List.flatMap_cons, ih hrest, hfirst]
          rfl

end Session

/-! ## Counting -/

/-- How often was counted in all. -/
def Tally.total : Tally → Nat
  | [] => 0
  | (_, n) :: rest => n + total rest

@[simp]
theorem Tally.total_add (values : List String) (t : Tally) :
    total (add values t) = total t + 1 := by
  induction t with
  | nil => rfl
  | cons p rest ih =>
      obtain ⟨key, n⟩ := p
      unfold add
      split
      · simp only [total]
        omega
      · simp only [total, ih]
        omega

namespace Metrics

/-- How many updates were handed to sinks, taken or refused. -/
def handedOver (m : Metrics) : Nat :=
  m.published.total + m.publishFailures

/-- An update is counted as coalesced, or as handed over. -/
theorem recordFate_counts (m : Metrics) (u : Update) (fate : Fate) :
    (m.recordFate u fate).coalesced = m.coalesced + (if fate = .coalesced then 1 else 0) ∧
      (m.recordFate u fate).handedOver = m.handedOver + (if fate = .coalesced then 0 else 1) := by
  cases fate with
  | published =>
      refine ⟨rfl, ?_⟩
      show (m.published.add _).total + m.publishFailures = m.handedOver + 1
      rw [Tally.total_add, handedOver]
      omega
  | refused e => exact ⟨rfl, rfl⟩
  | coalesced => exact ⟨rfl, rfl⟩

end Metrics

/-! ## Whole streams -/

/-- What became of an update: it was handed to a sink exactly if it is news after the one before
it. -/
def Occurrence.Settles (sink : Nat) (target : Target) (p : Update × Option Update)
    (o : Occurrence) : Prop :=
  ∃ fate, o = .delivered sink target p.1 fate ∧ (fate ≠ .coalesced ↔ p.1.IsNewsAfter p.2)

/-- Whatever the sinks answer, they are handed what is offered, and nothing else. -/
theorem settles_perform {σ : Type} (sinks : SinkInterface σ) (sink : Nat) (target : Target)
    (world : σ) (p : Update × Option Update) :
    Occurrence.Settles sink target p (Manager.perform sinks sink target world
      (.delivery (if p.1.IsNewsAfter p.2 then .offered p.1 else .coalesced p.1))).2 := by
  by_cases hnews : p.1.IsNewsAfter p.2
  · rw [if_pos hnews]
    simp only [Manager.perform]
    rcases sinks.offer world sink target p.1 with ⟨next, answer⟩
    cases answer with
    | none => exact ⟨.published, rfl, by simp [hnews]⟩
    | some e => exact ⟨.refused e, rfl, by simp [hnews]⟩
  · rw [if_neg hnews]
    exact ⟨.coalesced, rfl, by simp [hnews]⟩

theorem settles_performAll {σ : Type} (sinks : SinkInterface σ) (sink : Nat) (target : Target)
    (world : σ) (pairs : List (Update × Option Update)) :
    List.Forall₂ (Occurrence.Settles sink target) pairs
      (Manager.performAll sinks sink target world (pairs.map fun p =>
        .delivery (if p.1.IsNewsAfter p.2 then .offered p.1 else .coalesced p.1))).2 := by
  induction pairs generalizing world with
  | nil => exact .nil
  | cons p rest ih => exact .cons (settles_perform sinks sink target world p) (ih _)

/-- Settled updates are counted: those that are no news as coalesced, the others as handed over. -/
theorem recordAll_counts {sink : Nat} {target : Target} {pairs : List (Update × Option Update)}
    {occurred : List Occurrence}
    (h : List.Forall₂ (Occurrence.Settles sink target) pairs occurred) (counts : Metrics) :
    (counts.recordAll occurred).coalesced =
        counts.coalesced + pairs.countP (fun p => !decide (p.1.IsNewsAfter p.2)) ∧
      (counts.recordAll occurred).handedOver =
        counts.handedOver + pairs.countP (fun p => decide (p.1.IsNewsAfter p.2)) := by
  induction h generalizing counts with
  | nil => exact ⟨rfl, rfl⟩
  | @cons p o pairs occurred hsettles _ ih =>
      obtain ⟨fate, rfl, hfate⟩ := hsettles
      obtain ⟨hcoalesced, hhanded⟩ := counts.recordFate_counts p.1 fate
      obtain ⟨ihcoalesced, ihhanded⟩ := ih (counts.recordFate p.1 fate)
      have hrecord : counts.recordAll (.delivered sink target p.1 fate :: occurred) =
          (counts.recordFate p.1 fate).recordAll occurred :=
        rfl
      rw [hrecord, ihcoalesced, ihhanded, hcoalesced, hhanded, List.countP_cons, List.countP_cons]
      by_cases hnews : p.1.IsNewsAfter p.2
      · have hne : fate ≠ .coalesced := hfate.mpr hnews
        simp only [hnews, hne, decide_true, Bool.not_true, Bool.false_eq_true, if_true, if_false]
        omega
      · have heq : fate = .coalesced := by
          by_contra hne
          exact hnews (hfate.mp hne)
        simp only [hnews, heq, decide_false, Bool.not_false, Bool.false_eq_true, if_true, if_false]
        omega

/-- Whatever is done with a subscription from its start on, whatever updates it delivers meanwhile
and whatever its sink answers to each: each update is handed to the sink exactly if it is the first,
is terminal, or differs in phase, message or reason from the one before it; the others are counted
as coalesced and those as handed over; and an update ends the stream exactly if it is terminal,
handed over or not. -/
theorem deliveries_coalesce {σ : Type} (caller : String) (scope : Scope) (timing : Timing)
    (start : Instant) (hearsEvents : Bool) (done : List (Instant × Subscription.Task))
    (sinks : SinkInterface σ) (sink : Nat) (target : Target) (world : σ) (counts : Metrics) :
    let reactions := Session.reports ⟨.start caller scope timing start, hearsEvents⟩ done
    let pairs := Update.besidePrevious none (Subscription.delivered done)
    let occurred :=
      (Manager.performAll sinks sink target world (reactions.flatMap Reaction.effects)).2
    List.Forall₂ (Occurrence.Settles sink target) pairs occurred ∧
      (counts.recordAll occurred).coalesced =
        counts.coalesced + pairs.countP (fun p => !decide (p.1.IsNewsAfter p.2)) ∧
      (counts.recordAll occurred).handedOver =
        counts.handedOver + pairs.countP (fun p => decide (p.1.IsNewsAfter p.2)) ∧
      reactions.map Reaction.ending =
        (Subscription.delivered done).map fun u => if u.terminal then some .terminal else none := by
  intro reactions pairs occurred
  have heffects : reactions.flatMap Reaction.effects = pairs.map fun p =>
      .delivery (if p.1.IsNewsAfter p.2 then .offered p.1 else .coalesced p.1) :=
    Session.effects_reports rfl done
  have hsettles : List.Forall₂ (Occurrence.Settles sink target) pairs occurred := by
    have hall := settles_performAll sinks sink target world pairs
    rw [← heffects] at hall
    exact hall
  obtain ⟨hcoalesced, hhanded⟩ := recordAll_counts hsettles counts
  exact ⟨hsettles, hcoalesced, hhanded, Session.endings_reports _ done⟩

end ProvisionWatch

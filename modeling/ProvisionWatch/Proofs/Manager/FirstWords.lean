import ProvisionWatch.Proofs.Manager.PointRead
import ProvisionWatch.Proofs.Manager.Turns
import ProvisionWatch.Proofs.Session.FirstWords

/-!
# The first words of a stream

When a setup has its listing the stream begins: the sink is handed what the
deployment says in the light of the listed events, and one more update if one of
these moves on from that.  Both come from the same reading of the clock, and
before the worker takes its first step.

Main results:

- Theorem `performAll_offers`: what sinks are handed they are handed in order.
- Theorem `stream_begins_with`: what a call to subscribe that succeeds publishes.
-/

namespace ProvisionWatch
namespace Manager

variable {σ : Type} {policy : Policy} {sinks : SinkInterface σ} {m : Manager σ} {call : Nat}
variable {perCallerLimit globalLimit : Nat}

/-! ## Before the stream begins -/

/-- No two calls set up one target. -/
theorem Ledger.call_eq_of_target (h : Ledger perCallerLimit globalLimit m) {call' : Nat}
    {setup setup' : Setup} (hpending : m.setupOf? call = some setup)
    (hpending' : m.setupOf? call' = some setup')
    (htarget : setup'.request.target = setup.request.target) : call' = call := by
  by_contra hne
  have hothers : setup' ∈ (m.dropCall call).setups := by
    obtain ⟨p, hp, hsetup⟩ := Option.bind_eq_some_iff.mp hpending'
    refine List.mem_filterMap.mpr ⟨(call', p), List.mem_filter.mpr ⟨mem_of_call? hp, ?_⟩, hsetup⟩
    simpa using hne
  have hperm := setups_perm h.distinct call
  rw [hpending, Option.toList_some, List.singleton_append] at hperm
  have hnodup := (List.nodup_append.mp h.nodup_targets).1
  rw [(hperm.map fun s => s.request.target).nodup_iff, List.map_cons, List.nodup_cons] at hnodup
  exact hnodup.1 (List.mem_map.mpr ⟨setup', hothers, htarget⟩)

/-- While a call sets up a target, nothing is handed over for it before the call has its listing. -/
theorem listed_of_delivered (h : Ledger perCallerLimit globalLimit m) {setup : Setup}
    (hpending : m.call? call = some (.settingUp setup)) {label : Label} {r : Stepped σ}
    (hstep : m.step policy sinks label = some r) {sink : Nat} {u : Update} {fate : Fate}
    (hu : .delivered sink setup.request.target u fate ∈ r.2) :
    ∃ answer, label = .listed call answer := by
  have hsetup := setupOf?_of_call? hpending
  cases step_speaks hstep hu with
  | opening call' answer own setup' pending' about =>
      exact ⟨answer, h.call_eq_of_target hsetup pending' about ▸ own⟩
  | turn turn turns about =>
      exact absurd about (h.target_ne_of_setup (mem_setups h.distinct hsetup)
        (label_of_turn? turns).2)

/-! ## The step in which it begins -/

/-- Updates were handed to a sink one after the other, and nothing else occurred. -/
def HandedOver (sink : Nat) (target : Target) (updates : List Update)
    (said : List Occurrence) : Prop :=
  List.Forall₂ (fun u o => ∃ fate, fate ≠ .coalesced ∧ o = .delivered sink target u fate)
    updates said

/-- What is offered is handed over in order, whatever the sink says. -/
theorem performAll_offers (sinks : SinkInterface σ) (sink : Nat) (target : Target)
    (updates : List Update) (world : σ) :
    (performAll sinks sink target world
        (updates.map fun u => .delivery (.offered u))).1 =
      updates.foldl (fun world u => (sinks.offer world sink target u).1) world ∧
    HandedOver sink target updates
      (performAll sinks sink target world
        (updates.map fun u => .delivery (.offered u))).2 := by
  induction updates generalizing world with
  | nil => exact ⟨rfl, .nil⟩
  | cons u rest ih =>
      have hworld : (perform sinks sink target world (.delivery (.offered u))).1 =
          (sinks.offer world sink target u).1 := by
        rcases hoffer : sinks.offer world sink target u with ⟨world', refusal⟩
        cases refusal <;> simp only [perform, hoffer]
      obtain ⟨hlater, hsaid⟩ := ih (perform sinks sink target world (.delivery (.offered u))).1
      obtain ⟨fate, hfate, hoffered⟩ := perform_offered sinks sink target world u
      rw [List.foldl_cons, ← hworld]
      exact ⟨hlater, .cons ⟨fate, hfate, hoffered⟩ hsaid⟩

/-- With which updates a session opens that can take its listed events in. -/
theorem openSession?_words (hrules : ∀ rule ∈ policy.rules, rule.phase.isTerminal = false)
    {request : SubscribeRequest} {d : Deployment} {listed : List Event} {hearsEvents : Bool}
    {now : Instant} {opening : Opening}
    (hopens : openSession? policy request d listed hearsEvents now = some opening) :
    let first := Update.ofSnapshot d.snapshot (seededEvents policy request listed now) now
    ∃ (newest : Option Event) (second : Option Update),
      ((newSubscription policy request now).seed listed policy.config.eventSnapshotLimit now).2 =
        .ok newest ∧
      Sequel policy.rules newest first second ∧
      opening.effects = (first :: second.toList).map (fun u => .delivery (.offered u)) ∧
      opening.session.subscription.phase = (second.getD first).phase := by
  intro first
  have hopened := (openSession?_eq_some_iff.mp hopens).2
  rcases hseed : (newSubscription policy request now).seed listed
    policy.config.eventSnapshotLimit now with ⟨seeded, result⟩
  cases result with
  | error fault =>
      rw [Subscription.openWith, hseed] at hopened
      cases hopened
  | ok newest =>
      obtain ⟨o, second, ho, heffects, hsequel, hphase⟩ :=
        Subscription.openWith_words rfl hrules hseed d hearsEvents
      obtain rfl := Except.ok.inj (ho.symm.trans hopened)
      have hevents : seededEvents policy request listed now = seeded.scope.covered := by
        rw [seededEvents, hseed]
      rw [← hevents] at heffects hsequel hphase
      exact ⟨newest, second, rfl, hsequel, heffects, hphase⟩

/-- A call sets a subscription up, in any state that can be reached, and no rule has a terminal
phase.  Nothing is handed over for its target before it has its listing.  Then, whatever the
deployment is, whatever is listed and however few and new events are retained: if the events can be
taken in, the call succeeds.  The sink is handed what the deployment says in the light of the
retained events in scope; one update more exactly if the newest event that says anything moves on
from that, in the phase of its rule; and nothing else.  The new worker is in the phase of the last
of them. -/
theorem stream_begins_with {now : Instant} {world : σ} {bound : Option Nat} {labels : List Label}
    {occurred : List Occurrence}
    (hrun : (Manager.start now world bound (Quota.new perCallerLimit globalLimit)).run policy sinks
      labels = some (m, occurred))
    (hrules : ∀ rule ∈ policy.rules, rule.phase.isTerminal = false) {setup : Setup}
    (hpending : m.call? call = some (.settingUp setup)) :
    (∀ label r sink u fate, m.step policy sinks label = some r →
        .delivered sink setup.request.target u fate ∈ r.2 →
          ∃ answer, label = .listed call answer) ∧
      ∀ d hearsEvents (answer : Except WatchError (List Event)),
        setup.stage = .listing d hearsEvents →
        let listed := answer.toOption.getD []
        let first := Update.ofSnapshot d.snapshot
          (seededEvents policy setup.request listed m.now) m.now
        ∃ r, m.step policy sinks (.listed call answer) = some r ∧
          if policy.takesIn m.now listed then
            ∃ (newest : Option Event) (second : Option Update) (said : List Occurrence)
                (w : Worker),
              ((newSubscription policy setup.request m.now).seed listed
                policy.config.eventSnapshotLimit m.now).2 = .ok newest ∧
              Sequel policy.rules newest first second ∧
              r.2 = said ++
                [.opened setup.request.target, .returned call (.subscribed (.ok .started))] ∧
              HandedOver setup.sink setup.request.target (first :: second.toList) said ∧
              r.1.sinks = (first :: second.toList).foldl
                (fun world u => (sinks.offer world setup.sink setup.request.target u).1) m.sinks ∧
              r.1.workers = m.workers ++ [w] ∧ w.id = setup.id ∧
              w.session.subscription.phase = (second.getD first).phase
          else r.2 = [.returned call .brokeDown] := by
  refine ⟨fun label r sink u fate hstep hu => ?_, fun d hearsEvents answer hstage => ?_⟩
  · exact listed_of_delivered (run_ledger hrun) hpending hstep hu
  intro listed first
  refine ⟨_, step_listed hpending hstage answer, ?_⟩
  rw [← openSession?_isSome policy setup.request d listed hearsEvents m.now]
  unfold finishSetup
  cases hopens : openSession? policy setup.request d listed hearsEvents m.now with
  | none => exact rfl
  | some opening =>
      obtain ⟨newest, second, hnewest, hsequel, heffects, hphase⟩ :=
        openSession?_words hrules hopens
      obtain ⟨hworld, hsaid⟩ := performAll_offers sinks setup.sink setup.request.target
        (first :: second.toList) m.sinks
      rw [← heffects] at hworld hsaid
      exact ⟨newest, second, _, setup.worker opening, hnewest, hsequel, List.append_assoc _ _ _,
        hsaid, hworld, rfl, rfl, hphase⟩

/-- A deployment about which nothing is known, and a listed event of one of its machines. -/
theorem stream_begins_with_provisioning :
    ∃ m occurred r first second said w,
      (Manager.start default () (some 0) (Quota.new 10 100)).run Policy.standard .accepting
        [ .subscribe 1 ⟨"ann", ⟨"ns", "a"⟩, none⟩, .fetched 1 (.ok (some .blank)),
          .watched 1 (.ok ()), .eventsWatched 1 (.ok ()) ] = some (m, occurred) ∧
      m.step Policy.standard .accepting (.listed 1 (.ok
          [ ⟨⟨"Machine", "a-1", some "ns"⟩, "InfrastructureProvisioning", "", "Normal", none, none,
              none⟩ ])) = some r ∧
      r.2 = said ++ [.opened ⟨"ns", "a"⟩, .returned 1 (.subscribed (.ok .started))] ∧
      HandedOver 0 ⟨"ns", "a"⟩ [first, second] said ∧ first.phase = .initializing ∧
      second.phase = .provisioning ∧ second.reason = "InfrastructureProvisioning" ∧
      r.1.workers = [w] ∧ w.session.subscription.phase = .provisioning := by
  let setup : Setup := ⟨1, ⟨"ann", ⟨"ns", "a"⟩, none⟩, 0, .listing .blank true, .empty⟩
  let m : Manager Unit :=
    { now := default
      sinks := ()
      bound := some 0
      quota := { Quota.new 10 100 with inUse := 1, held := [("ann", 1)] }
      nextId := 2
      registry := [⟨1, ⟨"ns", "a"⟩, false⟩]
      announced := []
      calls := [(1, .settingUp setup)]
      workers := [] }
  let e : Event :=
    ⟨⟨"Machine", "a-1", some "ns"⟩, "InfrastructureProvisioning", "", "Normal", none, none, none⟩
  have hrules : ∀ rule ∈ Policy.standard.rules, rule.phase.isTerminal = false := by
    decide
  have htakes : Policy.standard.takesIn m.now [e] = true := by
    decide +kernel
  have hfirst : (Update.ofSnapshot Deployment.blank.snapshot
      (seededEvents .standard setup.request [e] m.now) m.now).phase = .initializing := by
    decide +kernel
  have hgoing : (Update.ofSnapshot Deployment.blank.snapshot
      (seededEvents .standard setup.request [e] m.now) m.now).terminal = false := by
    decide +kernel
  have hnewest : ((newSubscription .standard setup.request m.now).seed [e]
      Policy.standard.config.eventSnapshotLimit m.now).2.toOption = some (some e) := by
    decide +kernel
  have hrun : (Manager.start default () (some 0) (Quota.new 10 100)).run Policy.standard .accepting
      [ .subscribe 1 ⟨"ann", ⟨"ns", "a"⟩, none⟩, .fetched 1 (.ok (some .blank)),
        .watched 1 (.ok ()), .eventsWatched 1 (.ok ()) ] =
      some (m, [.asked (.fetch ⟨"ns", "a"⟩), .asked (.watch ⟨"ns", "a"⟩),
        .asked (.watchEvents "ns"), .asked (.listEvents "ns")]) :=
    rfl
  have hpending : m.call? 1 = some (.settingUp setup) :=
    rfl
  obtain ⟨-, hbegins⟩ := stream_begins_with hrun hrules hpending
  obtain ⟨r, hstep, hbegins⟩ := hbegins .blank true (.ok [e]) rfl
  obtain ⟨newest, second, said, w, hseed, hsequel, hoccurred, hsaid, -, hworkers, -, hphase⟩ :=
    (if_pos htakes).mp hbegins
  have hlatest : Except.toOption (.ok newest : Except RangeFault (Option Event)) =
      some (some e) := by
    rw [← hseed]
    exact hnewest
  obtain rfl : newest = some e := Option.some.inj hlatest
  have hmoves : MovesOn Policy.standard.rules (some e)
      (.ofSnapshot Deployment.blank.snapshot (seededEvents .standard setup.request [e] m.now) m.now)
      e ⟨"InfrastructureProvisioning", .provisioning⟩ :=
    ⟨hgoing, rfl, rfl, by rw [hfirst]; decide⟩
  obtain ⟨u, rfl⟩ := Option.isSome_iff_exists.mp (hsequel.said_iff.mpr ⟨e, _, hmoves⟩)
  obtain ⟨e', rule, hmoves', hfollows⟩ := hsequel.follows u rfl
  obtain rfl := Option.some.inj hmoves'.latest
  obtain rfl := Option.some.inj (hmoves.applies.symm.trans hmoves'.applies)
  exact ⟨m, _, r, _, u, said, w, hrun, hstep, hoccurred, hsaid, hfirst, hfollows.phase,
    hfollows.reason, hworkers, hphase.trans hfollows.phase⟩

end Manager
end ProvisionWatch

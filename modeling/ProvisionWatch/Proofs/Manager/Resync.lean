import ProvisionWatch.Manager.Counting
import ProvisionWatch.Proofs.Manager.Arbitration
import ProvisionWatch.Proofs.Session.Resync

/-!
# Watches that begin anew

Whenever a watch begins anew it shows its deployment again.  A worker that has
taken the deployment in and goes on, or that has just begun with it and had
nothing to add, takes note of that and no more: the sink hears nothing, and what
the worker knows stays as it is, however late it is by then.

Main results:

- Theorem `run_resyncs`: a worker that only sees its deployment again stays as it
  is.
- Theorem `resync_is_invisible`: what seeing it again amounts to.
-/

namespace ProvisionWatch
namespace Manager

variable {σ : Type} {policy : Policy} {sinks : SinkInterface σ} {perCallerLimit globalLimit : Nat}
variable {m m' : Manager σ} {label : Label} {r : Stepped σ} {w : Worker} {d : Deployment}
variable {id : Nat} {later : List Label} {more : List Occurrence}

/-! ## Workers that know their deployment -/

/-- A worker comes to know a deployment in a step. -/
inductive ComesToKnow (policy : Policy) (m : Manager σ) (label : Label) (d : Deployment)
    (id : Nat) : Prop where
  /-- It turns to a change that shows the deployment, and goes on. -/
  | turned (turn : WorkerTurn) (turns : m.turn? policy label = some turn)
      (own : turn.worker.id = id) (shows : turn.signal.shown? = some d.snapshot)
      (going : (turn.worker.session.take m.now turn.signal).ending = none)
  /-- It begins with the deployment that was fetched, and no listed event spoke up. -/
  | opened (call : Nat) (answer : Except WatchError (List Event))
      (listed : label = .listed call answer) (setup : Setup)
      (pending : m.call? call = some (.settingUp setup)) (own : setup.id = id) (hearsEvents : Bool)
      (listing : setup.stage = .listing d hearsEvents) (opening : Opening)
      (opens : openSession? policy setup.request d (answer.toOption.getD []) hearsEvents m.now =
        some opening)
      (silent : opening.effects.length = 1) (going : opening.finished = false)

/-- After such a step there is the worker, and it reflects the deployment. -/
theorem ComesToKnow.reflects (h : ComesToKnow policy m label d id)
    (hstep : m.step policy sinks label = some r) :
    ∃ w ∈ r.1.workers, w.id = id ∧ w.session.subscription.Reflects d := by
  cases h with
  | turned turn turns own shows going =>
      rw [step_of_turn? turns] at hstep
      obtain rfl := Option.some.inj hstep
      refine ⟨{ turn.worker with
        session := (turn.worker.session.take m.now turn.signal).session, inbox := turn.inbox },
        ?_, own, Session.reflects_take shows going⟩
      rw [workOn, going]
      exact mem_updateWorker_self (label_of_turn? turns).2 rfl
  | opened call answer listed setup pending own hearsEvents listing opening opens silent going =>
      obtain rfl := listed
      have hopens := (openSession?_eq_some_iff.mp opens).2
      rw [step_listed pending listing, finishSetup, opens] at hstep
      obtain rfl := Option.some.inj hstep
      exact ⟨setup.worker opening, List.mem_append_right _ List.mem_cons_self, own,
        Subscription.reflects_openWith hopens going silent⟩

/-! ## Seeing it again -/

/-- A worker that is gone does not come back. -/
theorem run_gone (hgone : m.Gone id) (hrun : m.run policy sinks later = some (m', more)) :
    m'.Gone id := by
  refine run_induction (motive := fun n _ => n.Gone id) ?_ hgone hrun
  intro n before label n' said _ hn hstep
  exact (step_acts hstep).gone hn

/-- As long as all that a worker turns to shows the deployment that it knows, it stays as it is
apart from what waits for it. -/
theorem run_resyncs (hledger : Ledger perCallerLimit globalLimit m) (hw : w ∈ m.workers)
    (hreflects : w.session.subscription.Reflects d)
    (hrun : m.run policy sinks later = some (m', more))
    (hshows : ∀ signal ∈ turnsOf policy sinks w.id m later, signal.shown? = some d.snapshot) :
    ∀ v ∈ m'.workers, v.id = w.id → ∃ inbox, v = { w with inbox := inbox } := by
  induction later generalizing m w more with
  | nil =>
      intro v hv hid
      obtain ⟨rfl, -⟩ := Prod.mk.inj (Option.some.inj hrun)
      exact ⟨w.inbox, hledger.distinct.worker_eq hv hw hid⟩
  | cons label rest ih =>
      intro v hv hid
      obtain ⟨⟨next, first⟩, ⟨last, said⟩, hfirst, hlater, heq⟩ := run_cons_eq_some_iff.mp hrun
      obtain ⟨rfl, -⟩ := Prod.mk.inj heq
      have hnext := step_ledger hledger hfirst
      rw [turnsOf_cons hfirst] at hshows
      have hrest := fun signal h => hshows signal (List.mem_append_right _ h)
      cases kept_or_turned_or_ended_of_step hledger hw hfirst with
      | kept inbox mem waits idle silent =>
          exact ih hnext mem hreflects hlater hrest v hv hid
      | turned turn turns own going mem =>
          subst own
          have hturn : turn.signal.shown? = some d.snapshot := by
            refine hshows _ (List.mem_append_left _ ?_)
            rw [ownTurn?_of_turn turns]
            exact List.mem_singleton_self _
          rw [Session.take_of_reflects hreflects hturn] at mem
          exact ih hnext mem hreflects hlater hrest v hv hid
      | ended own gone =>
          exact absurd hid (((run_gone gone hlater).released (hnext.run hlater)).worker v hv)

/-- A worker came to know a deployment in a step and went on, or began with it and had nothing to
add.  Since then, whatever else happened, all that it turned to showed it the deployment again.
When it turns to one more change that does so, at whatever time, the sink is handed nothing and is
not even asked, one more update counts as coalesced, and the worker stays as it is apart from what
waits for it. -/
theorem resync_is_invisible {now : Instant} {world : σ} {bound : Option Nat} {labels : List Label}
    {occurred : List Occurrence}
    (hrun : (Manager.start now world bound (Quota.new perCallerLimit globalLimit)).run policy sinks
      labels = some (m, occurred))
    (hknows : ComesToKnow policy m label d id) (hstep : m.step policy sinks label = some r)
    (hlater : r.1.run policy sinks later = some (m', more))
    (hshows : ∀ signal ∈ turnsOf policy sinks id r.1 later, signal.shown? = some d.snapshot)
    {again : Label} {turn : WorkerTurn} (hturn : m'.turn? policy again = some turn)
    (hown : turn.worker.id = id) (hagain : turn.signal.shown? = some d.snapshot) :
    let u := Update.ofSnapshot d.snapshot turn.worker.session.subscription.scope.covered m'.now
    (∀ w ∈ r.1.workers, w.id = id → turn.worker.session = w.session) ∧
      m'.step policy sinks again =
        some (m'.updateWorker { turn.worker with inbox := turn.inbox },
          [.delivered turn.worker.sink turn.worker.target u .coalesced]) ∧
      ∀ counts : Metrics,
        counts.recordAll [.delivered turn.worker.sink turn.worker.target u .coalesced] =
          counts.countCoalesced := by
  intro u
  have hledger := step_ledger (run_ledger hrun) hstep
  obtain ⟨w, hw, rfl, hreflects⟩ := hknows.reflects hstep
  obtain ⟨inbox, hworker⟩ := run_resyncs hledger hw hreflects hlater hshows turn.worker
    (label_of_turn? hturn).2 hown
  have hsession : turn.worker.session = w.session := by
    rw [hworker]
  refine ⟨fun v hv hid => ?_, ?_, fun counts => rfl⟩
  · rw [hledger.distinct.worker_eq hv hw hid, hsession]
  · rw [step_of_turn? hturn, workOn, Session.take_of_reflects (hsession ▸ hreflects) hagain]
    rfl

/-- While a setup waits for its listing, its watch shows the deployment that was fetched.  The
worker turns to that when the clock has come to its end. -/
theorem resync_is_invisible_of_first_change :
    ∃ m occurred r turn u,
      (Manager.start default () (some 0) (Quota.new 10 100)).run Policy.standard .accepting
        [ .subscribe 1 ⟨"ann", ⟨"ns", "a"⟩, none⟩, .fetched 1 (.ok (some .blank)),
          .watched 1 (.ok ()), .eventsWatched 1 (.ok ()),
          .arrive ⟨"ns", "a"⟩ (.resource (.change ⟨.blank, .added⟩)) ] = some (m, occurred) ∧
      m.step Policy.standard .accepting (.listed 1 (.ok [])) = some r ∧
      ({ r.1 with now := .latest } : Manager Unit).turn? Policy.standard (.work ⟨"ns", "a"⟩) =
        some turn ∧
      (∀ w ∈ r.1.workers, w.id = 1 → turn.worker.session = w.session) ∧
      ({ r.1 with now := .latest } : Manager Unit).step Policy.standard .accepting
          (.work ⟨"ns", "a"⟩) =
        some (({ r.1 with now := .latest } : Manager Unit).updateWorker
            { turn.worker with inbox := turn.inbox },
          [.delivered turn.worker.sink turn.worker.target u .coalesced]) := by
  let setup : Setup :=
    ⟨1, ⟨"ann", ⟨"ns", "a"⟩, none⟩, 0, .listing .blank true, ⟨[.change ⟨.blank, .added⟩], [], false⟩⟩
  let m : Manager Unit :=
    { now := default
      sinks := ()
      bound := some 0
      quota := { Quota.new 10 100 with inUse := 1, held := [("ann", 1)] }
      nextId := 2
      registry := [⟨1, ⟨"ns", "a"⟩, false⟩]
      announced := []
      calls := [(1, .settingUp setup)]
      workers := [] }
  let r : Stepped Unit := m.finishSetup .standard .accepting 1 setup .blank true []
  have hopens : (openSession? .standard setup.request .blank [] true m.now).map
      (fun o => (o.effects.length, o.finished)) = some (1, false) := by
    decide +kernel
  obtain ⟨opening, hopening, hsilent⟩ := Option.map_eq_some_iff.mp hopens
  obtain ⟨hsilent, hgoing⟩ := Prod.mk.inj hsilent
  have hturns : (({ r.1 with now := .latest } : Manager Unit).turn? Policy.standard
      (.work ⟨"ns", "a"⟩)).map (fun turn => (turn.worker.id, turn.signal.shown?)) =
        some (1, some Deployment.blank.snapshot) := by
    decide +kernel
  obtain ⟨turn, hturn, hagain⟩ := Option.map_eq_some_iff.mp hturns
  obtain ⟨hown, hagain⟩ := Prod.mk.inj hagain
  have hknows : ComesToKnow Policy.standard m (.listed 1 (.ok [])) .blank 1 :=
    .opened 1 (.ok []) rfl setup rfl rfl true rfl opening hopening hsilent hgoing
  have hrun : (Manager.start default () (some 0) (Quota.new 10 100)).run Policy.standard .accepting
      [ .subscribe 1 ⟨"ann", ⟨"ns", "a"⟩, none⟩, .fetched 1 (.ok (some .blank)),
        .watched 1 (.ok ()), .eventsWatched 1 (.ok ()),
        .arrive ⟨"ns", "a"⟩ (.resource (.change ⟨.blank, .added⟩)) ] =
      some (m, [.asked (.fetch ⟨"ns", "a"⟩), .asked (.watch ⟨"ns", "a"⟩),
        .asked (.watchEvents "ns"), .asked (.listEvents "ns")]) :=
    rfl
  have hstep : m.step Policy.standard .accepting (.listed 1 (.ok [])) = some r :=
    rfl
  have hlater : r.1.run Policy.standard .accepting [.setClock .latest] =
      some ({ r.1 with now := .latest }, []) :=
    rfl
  obtain ⟨hsession, hagain, -⟩ := resync_is_invisible hrun hknows hstep hlater
    (List.forall_mem_nil _) hturn hown hagain
  exact ⟨m, _, r, turn, _, hrun, hstep, hturn, hsession, hagain⟩

end Manager
end ProvisionWatch

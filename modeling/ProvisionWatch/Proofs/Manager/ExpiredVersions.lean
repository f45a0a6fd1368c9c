import ProvisionWatch.Proofs.Manager.Counts
import ProvisionWatch.Proofs.Manager.Overlap
import ProvisionWatch.Proofs.Manager.Turns
import ProvisionWatch.Proofs.Watch.Marks

/-!
# Watches whose version is gone

The cluster keeps its versions for some time only.  A watch that goes on from one
that is gone is told so, and has to begin anew; that is no reason to end a
subscription.  But the marks of a refusal are looked for first, and in the whole
message, so also in the versions that it names.

Main results:

- Theorem `step_of_transient`: an error that a watch outlives is recorded, and
  nothing else happens.
- Theorem `step_of_lasting`: any other error is the last that a worker turns to.
- Theorem `outlives_expired_version_iff`: a worker outlives a version that is gone
  unless one of the versions spells the code of a refusal.
-/

namespace ProvisionWatch

/-! ## Errors about versions -/

namespace WatchError

/-- A request or a stream is told that the version it asks for is gone. -/
inductive TellsTooOld (asked current : Nat) : WatchError → Prop where
  | api : TellsTooOld asked current (.api (WatchErrorKind.tooOld asked current))
  | stream : TellsTooOld asked current (.stream (WatchErrorKind.tooOld asked current))

namespace TellsTooOld

variable {asked current : Nat} {error : WatchError}

theorem isTransient_iff (h : TellsTooOld asked current error) :
    error.isTransient = true ↔
      WatchErrorKind.spellsRefusal asked = false ∧
        WatchErrorKind.spellsRefusal current = false := by
  have hkind : error.isTransient =
      (WatchErrorKind.ofMessage (WatchErrorKind.tooOld asked current)).isTransient := by
    cases h <;> rfl
  rw [hkind, WatchErrorKind.ofMessage_tooOld, ← Bool.or_eq_false_iff]
  cases WatchErrorKind.spellsRefusal asked || WatchErrorKind.spellsRefusal current <;> decide

theorem recordedKind (h : TellsTooOld asked current error) :
    error.recordedKind =
      if WatchErrorKind.spellsRefusal asked || WatchErrorKind.spellsRefusal current then
        .unauthorized
      else .expired := by
  cases h with
  | api => rw [recordedKind_api, WatchErrorKind.ofMessage_tooOld]
  | stream => rw [recordedKind_stream, WatchErrorKind.ofMessage_tooOld]

end TellsTooOld
end WatchError

/-! ## Turns to an error -/

namespace Manager

variable {σ : Type} {policy : Policy} {m : Manager σ} {label : Label} {turn : WorkerTurn}
  {error : WatchError}

/-- An error that a watch outlives is recorded, and nothing else happens: the worker goes on as it
was, with what else waits for it. -/
theorem step_of_transient (sinks : SinkInterface σ) (hturn : m.turn? policy label = some turn)
    (hsignal : turn.signal = .input (.resource (.error error)))
    (htransient : error.isTransient = true) :
    m.step policy sinks label =
      some (m.updateWorker { turn.worker with inbox := turn.inbox },
        [.watchError turn.worker.target .resource error.recordedKind]) := by
  have htake : turn.worker.session.take m.now turn.signal =
      { session := turn.worker.session
        effects := [.watchError .resource error.recordedKind]
        ending := none } := by
    simp only [hsignal, Session.take, Session.react, Session.reactToResource, htransient, if_true]
  rw [step_of_turn? hturn, workOn, htake]
  rfl

/-- Any other error is the last that a worker turns to: it is recorded, the sink is handed the
notice of it, and the worker is gone. -/
theorem step_of_lasting (sinks : SinkInterface σ) (hturn : m.turn? policy label = some turn)
    (hsignal : turn.signal = .input (.resource (.error error)))
    (hlasting : error.isTransient = false) :
    ∃ r fate, m.step policy sinks label = some r ∧ fate ≠ .coalesced ∧
      r.2 =
        [ .watchError turn.worker.target .resource error.recordedKind,
          .delivered turn.worker.sink turn.worker.target
            (turn.worker.session.subscription.watchFailedNotice error.text m.now) fate,
          .closed turn.worker.target .watchFailed ] ∧
      ∀ w ∈ r.1.workers, w.id ≠ turn.worker.id := by
  let subscription := turn.worker.session.subscription
  let notice := subscription.watchFailedNotice error.text m.now
  have hoffered : (subscription.deliver notice).2 = .offered notice := by
    have hoffer : subscription.shouldOffer notice = true :=
      (Subscription.shouldOffer_iff _ _).mpr (.inl rfl)
    rw [Subscription.deliver, if_pos hoffer]
  have htake : turn.worker.session.take m.now turn.signal =
      { session := { turn.worker.session with subscription := (subscription.deliver notice).1 }
        effects := [.watchError .resource error.recordedKind, .delivery (.offered notice)]
        ending := some .watchFailed } := by
    simp only [hsignal, Session.take, Session.react, Session.reactToResource, hlasting,
      Bool.false_eq_true, if_false, Session.say, ← hoffered]
    rfl
  obtain ⟨fate, hfate, hdelivered⟩ :=
    perform_offered sinks turn.worker.sink turn.worker.target m.sinks notice
  refine ⟨_, fate, step_of_turn? hturn, hfate, ?_, ?_⟩
  · rw [workOn_occurred, htake, ← hdelivered]
    rfl
  · intro w hw
    rw [workOn, htake] at hw
    simpa using (List.mem_filter.mp hw).2

/-- A worker turns to an error of its watch that says that a version is gone, in any state and
whatever the versions are.  As long as neither of the versions spells the code of a refusal, the
error is transient: it is recorded under its own kind and counted so, and the worker goes on as it
was without a word.  Otherwise it is taken for a refusal and is the end of the worker. -/
theorem outlives_expired_version_iff (sinks : SinkInterface σ) {asked current : Nat}
    (hturn : m.turn? policy label = some turn)
    (hsignal : turn.signal = .input (.resource (.error error)))
    (hold : error.TellsTooOld asked current) :
    (error.isTransient = true ↔
        WatchErrorKind.spellsRefusal asked = false ∧
          WatchErrorKind.spellsRefusal current = false) ∧
      (error.isTransient = true →
        m.step policy sinks label =
            some (m.updateWorker { turn.worker with inbox := turn.inbox },
              [.watchError turn.worker.target .resource .expired]) ∧
          ∀ counts : Metrics,
            counts.recordAll [.watchError turn.worker.target .resource .expired] =
              counts.countWatchError "resource" "expired") ∧
      (error.isTransient = false →
        ∃ r fate, m.step policy sinks label = some r ∧ fate ≠ .coalesced ∧
          r.2 =
            [ .watchError turn.worker.target .resource .unauthorized,
              .delivered turn.worker.sink turn.worker.target
                (turn.worker.session.subscription.watchFailedNotice error.text m.now) fate,
              .closed turn.worker.target .watchFailed ] ∧
          ∀ w ∈ r.1.workers, w.id ≠ turn.worker.id) := by
  have hiff := hold.isTransient_iff
  have hkind := hold.recordedKind
  refine ⟨hiff, fun htransient => ⟨?_, fun counts => rfl⟩, fun hlasting => ?_⟩
  · obtain ⟨hasked, hcurrent⟩ := hiff.mp htransient
    rw [hasked, hcurrent, Bool.or_self, if_neg Bool.false_ne_true] at hkind
    rw [← hkind]
    exact step_of_transient sinks hturn hsignal htransient
  · have hspells : (WatchErrorKind.spellsRefusal asked ||
        WatchErrorKind.spellsRefusal current) = true := by
      rw [← Bool.not_eq_false, Bool.or_eq_false_iff, ← hiff, hlasting]
      exact Bool.false_ne_true
    rw [if_pos hspells] at hkind
    rw [← hkind]
    exact step_of_lasting sinks hturn hsignal hlasting

/-- The stream of a worker asks for version 123 while the current one is 456. -/
theorem outlives_expired_version_of_small_numbers :
    ∃ (m : Manager Unit) (turn : WorkerTurn),
      m.workers.map Worker.id = [1] ∧
      m.turn? Policy.standard (.work ⟨"ns", "a"⟩) = some turn ∧
      turn.signal = .input (.resource (.error (.stream (WatchErrorKind.tooOld 123 456)))) ∧
      (m.step Policy.standard .accepting (.work ⟨"ns", "a"⟩)).map
          (fun r => (r.1.workers.map Worker.id, r.1.workers.map Worker.session, r.2)) =
        some ([1], [turn.worker.session], [.watchError ⟨"ns", "a"⟩ .resource .expired]) := by
  let error : WatchError := .stream (WatchErrorKind.tooOld 123 456)
  let session : Session :=
    { subscription := newSubscription .standard ⟨"ann", ⟨"ns", "a"⟩, none⟩ default
      hearsEvents := true }
  let w : Worker :=
    { id := 1, caller := "ann", target := ⟨"ns", "a"⟩, sink := 0, session := session,
      finished := false, inbox := ⟨[.error error], [], false⟩ }
  let m : Manager Unit :=
    { now := default
      sinks := ()
      bound := some 0
      quota := { Quota.new 10 100 with inUse := 1, held := [("ann", 1)] }
      nextId := 2
      registry := [⟨1, ⟨"ns", "a"⟩, false⟩]
      announced := [1]
      calls := []
      workers := [w] }
  have hturn : m.turn? Policy.standard (.work ⟨"ns", "a"⟩) =
      some ⟨w, .input (.resource (.error error)), .empty⟩ :=
    rfl
  obtain ⟨hiff, hgoes, -⟩ := outlives_expired_version_iff .accepting hturn rfl .stream
  have htransient : error.isTransient = true := hiff.mpr (by decide +kernel)
  refine ⟨m, _, rfl, hturn, rfl, ?_⟩
  rw [(hgoes htransient).1]
  rfl

/-- Version 140153 is gone and 140210 is current, but the first has a 401 in it.  The worker that is
told so hands over a second update, which says that the watch failed, and ends. -/
theorem expired_version_taken_for_refusal :
    (WatchError.api (WatchErrorKind.tooOld 140153 140210)).isTransient = false ∧
      (WatchError.stream (WatchErrorKind.tooOld 140153 140210)).isTransient = false ∧
      ((Manager.start default () (some 0) (Quota.new 10 100)).run Policy.standard .accepting
          (Label.setup 1 ⟨"ann", ⟨"ns", "a"⟩, none⟩ .blank [] ++
            [ .arrive ⟨"ns", "a"⟩
                (.resource (.error (.stream (WatchErrorKind.tooOld 140153 140210)))),
              .work ⟨"ns", "a"⟩ ])).map
          (fun r => (r.1.workers.map Worker.id, fates r.2, r.2.countP Occurrence.isClosed)) =
        some ([], [.published, .published], 1) := by
  decide +kernel

end Manager
end ProvisionWatch

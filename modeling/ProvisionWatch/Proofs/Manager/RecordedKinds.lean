import ProvisionWatch.Proofs.Manager.ExpiredVersions

/-!
# Recorded kinds

An error is recorded under the kind of its whole text, heading included, while a
worker asks for the kind of the bare message to see whether it can go on.  Headings
have no marks and share none with what follows them, so both kinds are the same:
what the metrics say of an error tells whether its subscription has ended.  Only
what could not be read is never the end, whatever the metrics say of it.

Main results:

- Theorem `WatchError.Says.recordedKind`: the heading does not change the kind.
- Theorem `step_of_error`: what a worker does about an error of its stream.
- Theorem `Session.run_watchFailed_iff`: what a session is ended by that ends because
  its watch failed.
- Theorem `recorded_kind_decides`: the kind that is recorded decides.
-/

namespace ProvisionWatch

/-! ## Kinds of errors -/

/-- The label of a kind in the metrics tells whether a watch can go on. -/
theorem WatchErrorKind.isTransient_eq_false_iff_text (kind : WatchErrorKind) :
    kind.isTransient = false ↔ kind.text ≠ "expired" ∧ kind.text ≠ "throttled" := by
  cases kind <;> decide

namespace WatchError

/-- The cluster fails a request with a message, or reports the message on a stream. -/
inductive Says (message : String) : WatchError → Prop where
  | api : Says message (.api message)
  | stream : Says message (.stream message)

variable {message : String} {error : WatchError}

/-- What the cluster says is recorded under the kind of the message itself. -/
theorem Says.recordedKind (h : error.Says message) :
    error.recordedKind = WatchErrorKind.ofMessage message := by
  cases h with
  | api => exact recordedKind_api message
  | stream => exact recordedKind_stream message

/-- The kind that is recorded is the one that decides. -/
theorem Says.isTransient (h : error.Says message) :
    error.isTransient = error.recordedKind.isTransient := by
  rw [h.recordedKind]
  cases h <;> rfl

/-- An error is not outlived exactly if the cluster said it and it is recorded under a kind that no
watch outlives. -/
theorem isTransient_eq_false_iff (error : WatchError) :
    error.isTransient = false ↔
      ∃ message, error.Says message ∧ error.recordedKind.isTransient = false := by
  constructor
  · intro hlasting
    cases error with
    | api message => exact ⟨message, .api, Says.api.isTransient ▸ hlasting⟩
    | stream message => exact ⟨message, .stream, Says.stream.isTransient ▸ hlasting⟩
    | decode message => cases hlasting
  · rintro ⟨message, hsaid, hlasting⟩
    rw [hsaid.isTransient, hlasting]

end WatchError

/-! ## Sessions whose watch fails -/

namespace Session

variable {s : Session}

/-- A signal ends a session because its watch failed exactly if it is an error of that watch that
is not outlived. -/
theorem take_watchFailed_iff (now : Instant) (signal : Signal) :
    (s.take now signal).ending = some .watchFailed ↔
      ∃ error, signal = .input (.resource (.error error)) ∧ error.isTransient = false := by
  have hreport : ∀ subscription u, (s.report subscription u).ending ≠ some .watchFailed := by
    intro subscription u
    rw [report, say_ending]
    split <;> simp
  rcases signal with _ | (_ | error | _) | (e | error | _) | _
  · simp [take]
  · simpa [take, react, reactToResource] using hreport _ _
  · cases htransient : error.isTransient <;>
      simp [take, react, reactToResource, htransient]
  · simp [take, react, reactToResource]
  · simp only [take, react, reactToEvent, reduceCtorEq, Signal.input.injEq, false_and,
      exists_false, iff_false]
    split
    · simp
    · exact hreport _ _
    · simp [breakDown]
  · simp [take, react, reactToEvent]
  · simp [take, react, reactToEvent]
  · simp only [take, react, reactToTick, reduceCtorEq, Signal.input.injEq, false_and,
      exists_false, iff_false]
    split
    · simp [breakDown]
    · split <;> simp

/-- A session ends because its watch failed exactly if it comes to an error of that watch that is
not outlived. -/
theorem run_watchFailed_iff (signals : List (Instant × Signal)) :
    (s.run signals).ending = some .watchFailed ↔
      ∃ before now error after,
        signals = before ++ (now, .input (.resource (.error error))) :: after ∧
          (s.run before).ending = none ∧ error.isTransient = false := by
  constructor
  · intro h
    induction signals generalizing s with
    | nil => cases h
    | cons timed rest ih =>
        obtain ⟨now, signal⟩ := timed
        cases hfirst : (s.take now signal).ending with
        | some ending =>
            rw [run_cons_of_ended s now signal ending rest hfirst] at h
            obtain ⟨error, rfl, hlasting⟩ := (take_watchFailed_iff now signal).mp h
            exact ⟨[], now, error, rest, rfl, rfl, hlasting⟩
        | none =>
            rw [run_cons s now signal rest hfirst] at h
            obtain ⟨before, now', error, after, rfl, hgoing, hlasting⟩ := ih h
            refine ⟨(now, signal) :: before, now', error, after, rfl, ?_, hlasting⟩
            rw [run_cons s now signal before hfirst]
            exact hgoing
  · rintro ⟨before, now, error, after, rfl, hgoing, hlasting⟩
    have hends := (take_watchFailed_iff (s := (s.run before).session) now _).mpr
      ⟨error, rfl, hlasting⟩
    rw [run_append s before _ hgoing, run_cons_of_ended _ now _ _ after hends]
    exact hends

end Session

/-! ## Workers whose watch has an error -/

namespace Manager

variable {σ : Type} {policy : Policy} {m : Manager σ} {label : Label} {turn : WorkerTurn}
  {error : WatchError}

/-- A subscription has ended in a step: that is told, and its worker is gone. -/
structure HasEnded (r : Stepped σ) (w : Worker) : Prop where
  told : ∃ ending, .closed w.target ending ∈ r.2
  gone : ∀ v ∈ r.1.workers, v.id ≠ w.id

/-- A worker that turns to an error of its stream of changes has it counted once.  It goes on as it
was if the error is outlived, and is at its end otherwise. -/
theorem step_of_error (sinks : SinkInterface σ) (hturn : m.turn? policy label = some turn)
    (hsignal : turn.signal = .input (.resource (.error error))) :
    ∃ r, m.step policy sinks label = some r ∧
      (∀ counts : Metrics, (counts.recordAll r.2).watchErrors =
        counts.watchErrors.add ["resource", error.recordedKind.text]) ∧
      (HasEnded r turn.worker ↔ error.isTransient = false) ∧
      (error.isTransient = true →
        r.1 = m.updateWorker { turn.worker with inbox := turn.inbox }) := by
  cases htransient : error.isTransient with
  | true =>
      refine ⟨_, step_of_transient sinks hturn hsignal htransient, fun counts => rfl, ?_,
        fun _ => rfl⟩
      refine iff_of_false (fun hended => ?_) Bool.true_eq_false.mp
      obtain ⟨ending, htold⟩ := hended.told
      simp at htold
  | false =>
      obtain ⟨r, fate, hstep, -, hoccurred, hgone⟩ :=
        step_of_lasting sinks hturn hsignal htransient
      refine ⟨r, hstep, fun counts => ?_, iff_of_true ⟨⟨.watchFailed, ?_⟩, hgone⟩ rfl, nofun⟩
      · rw [hoccurred]
        cases fate <;> rfl
      · rw [hoccurred]
        simp

/-- A message is of the same kind with the heading of its error and without.  So when a worker turns
to an error of its stream of changes, in any state, the error is counted once; if it is something
that the cluster said, the subscription has ended then exactly if the kind that is counted is
neither expired nor throttled, and goes on as it was otherwise; and if the error is that something
could not be read, it goes on as it was in any case.  Over a whole run, the watch of a session fails
exactly if the session comes to something that the cluster said and that is recorded under another
kind. -/
theorem recorded_kind_decides (sinks : SinkInterface σ) (hturn : m.turn? policy label = some turn)
    (hsignal : turn.signal = .input (.resource (.error error))) :
    (∀ message : String,
      WatchErrorKind.ofMessage (WatchError.api message).text = WatchErrorKind.ofMessage message ∧
      WatchErrorKind.ofMessage (WatchError.stream message).text =
        WatchErrorKind.ofMessage message) ∧
    (∃ r, m.step policy sinks label = some r ∧
      (∀ counts : Metrics, (counts.recordAll r.2).watchErrors =
        counts.watchErrors.add ["resource", error.recordedKind.text]) ∧
      (∀ message, error.Says message →
        (HasEnded r turn.worker ↔
          error.recordedKind.text ≠ "expired" ∧ error.recordedKind.text ≠ "throttled") ∧
        (error.recordedKind.text = "expired" ∨ error.recordedKind.text = "throttled" →
          r.1 = m.updateWorker { turn.worker with inbox := turn.inbox })) ∧
      (∀ message, error = .decode message →
        ¬ HasEnded r turn.worker ∧
          r.1 = m.updateWorker { turn.worker with inbox := turn.inbox })) ∧
    ∀ signals : List (Instant × Signal),
      (turn.worker.session.run signals).ending = some .watchFailed ↔
        ∃ before now e after message,
          signals = before ++ (now, .input (.resource (.error e))) :: after ∧
            (turn.worker.session.run before).ending = none ∧ e.Says message ∧
              e.recordedKind.text ≠ "expired" ∧ e.recordedKind.text ≠ "throttled" := by
  obtain ⟨r, hstep, hcounts, hended, hgoes⟩ := step_of_error sinks hturn hsignal
  refine ⟨fun message => ⟨WatchError.Says.api.recordedKind, WatchError.Says.stream.recordedKind⟩,
    ⟨r, hstep, hcounts, ?_, ?_⟩, ?_⟩
  · intro message hsaid
    have hkind := error.recordedKind.isTransient_eq_false_iff_text
    rw [hsaid.isTransient] at hended hgoes
    refine ⟨hended.trans hkind, fun houtlived => hgoes ?_⟩
    rw [← Bool.not_eq_false, hkind, not_and_or, not_not, not_not]
    exact houtlived
  · rintro message rfl
    exact ⟨fun h => Bool.noConfusion (hended.mp h), hgoes rfl⟩
  · intro signals
    simp only [Session.run_watchFailed_iff, WatchError.isTransient_eq_false_iff,
      WatchErrorKind.isTransient_eq_false_iff_text, exists_and_left]

/-- The stream of a worker reports a refusal that also tells of a version that is gone.  It is
counted as a refusal, and the worker is gone. -/
theorem recorded_kind_decides_of_mixed_marks :
    ∃ (m : Manager Unit) (turn : WorkerTurn) (r : Stepped Unit),
      let error : WatchError := .stream "410 Gone: 403"
      m.workers.map Worker.id = [1] ∧
      m.turn? Policy.standard (.work ⟨"ns", "a"⟩) = some turn ∧
      turn.signal = .input (.resource (.error error)) ∧
      error.recordedKind.text = "unauthorized" ∧
      m.step Policy.standard .accepting (.work ⟨"ns", "a"⟩) = some r ∧
      (Metrics.zero.recordAll r.2).watchErrors = [(["resource", "unauthorized"], 1)] ∧
      HasEnded r turn.worker := by
  let error : WatchError := .stream "410 Gone: 403"
  let session : Session :=
    { subscription := newSubscription .standard ⟨"ann", ⟨"ns", "a"⟩, none⟩ default
      hearsEvents := true }
  let w : Worker :=
    { id := 1, caller := "ann", target := ⟨"ns", "a"⟩, sink := 0, session := session,
      finished := false, inbox := ⟨[.error error], [], false⟩ }
  let m : Manager Unit :=
    { now := default
      sinks := ()
      bound := some 0
      quota := { Quota.new 10 100 with inUse := 1, held := [("ann", 1)] }
      nextId := 2
      registry := [⟨1, ⟨"ns", "a"⟩, false⟩]
      announced := [1]
      calls := []
      workers := [w] }
  have hturn : m.turn? Policy.standard (.work ⟨"ns", "a"⟩) =
      some ⟨w, .input (.resource (.error error)), .empty⟩ :=
    rfl
  have hkind : error.recordedKind.text = "unauthorized" := by decide +kernel
  have hsignal : (⟨w, .input (.resource (.error error)), .empty⟩ : WorkerTurn).signal =
      .input (.resource (.error error)) :=
    rfl
  obtain ⟨-, ⟨r, hstep, hcounts, hsaid, -⟩, -⟩ :=
    recorded_kind_decides .accepting hturn hsignal
  have hended := (hsaid _ .stream).1
  rw [hkind] at hcounts hended
  exact ⟨m, _, r, rfl, hturn, hsignal, hkind, hstep, hcounts _, hended.mpr (by decide)⟩

end Manager
end ProvisionWatch

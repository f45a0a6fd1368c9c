import ProvisionWatch.Proofs.Manager.Streams
import ProvisionWatch.Proofs.Session.InStep

/-!
# The turns of workers

In a step of its own a worker that streams turns to one signal: the one that goes
before all others that wait for it.  A step hands over updates only where a
session opens, and in such a turn.

Main results:

- Theorem `step_of_turn?`: what a worker turns to decides its step.
- Theorem `step_works`: without a turn, a worker can only halt.
- Theorem `kept_or_opened_or_turned_of_step`: after a step a worker is what it was
  apart from what arrives for it, or begins, or has taken a turn and goes on.
- Theorem `step_speaks`: whatever is said in a step belongs to an opening or to a
  turn.
-/

namespace ProvisionWatch

/-- A worker that turns to a signal, and what waits for it then. -/
structure WorkerTurn where
  worker : Worker
  signal : Signal
  inbox : Inbox

/-- Whether a worker streams: it has not had its last update already, and there is time between
ticks. -/
def Worker.streams (policy : Policy) (w : Worker) : Bool :=
  !w.finished && !policy.config.tickInterval.isZero

theorem Worker.streams_iff {policy : Policy} {w : Worker} :
    w.streams policy = true ↔
      w.finished = false ∧ policy.config.tickInterval.isZero = false := by
  simp [streams]

namespace Manager

variable {σ : Type} {policy : Policy} {sinks : SinkInterface σ}
variable {m : Manager σ} {label : Label} {r : Stepped σ}

/-- What a worker turns to, if it takes a step. -/
def nextTurn? (policy : Policy) (m : Manager σ) (w : Worker) : Option WorkerTurn :=
  if w.streams policy then
    (w.inbox.next? (m.isCancelled w.id) w.session.hearsEvents).map fun next =>
      { worker := w, signal := next.1, inbox := next.2 }
  else none

/-- The turn that is taken in a step. -/
def turn? (policy : Policy) (m : Manager σ) : Label → Option WorkerTurn
  | .work target => (m.worker? target).bind (m.nextTurn? policy)
  | _ => none

theorem nextTurn?_eq_some_iff {w : Worker} {turn : WorkerTurn} :
    m.nextTurn? policy w = some turn ↔
      turn.worker = w ∧ w.streams policy = true ∧
        w.inbox.next? (m.isCancelled w.id) w.session.hearsEvents =
          some (turn.signal, turn.inbox) := by
  obtain ⟨v, signal, inbox⟩ := turn
  unfold nextTurn?
  split
  · rename_i hstreams
    simp only [Option.map_eq_some_iff, Prod.exists, WorkerTurn.mk.injEq, hstreams, true_and]
    refine ⟨?_, fun ⟨hv, hnext⟩ => ⟨signal, inbox, hnext, hv.symm, rfl, rfl⟩⟩
    rintro ⟨signal', inbox', hnext, rfl, rfl, rfl⟩
    exact ⟨rfl, hnext⟩
  · rename_i hhalts
    simp [hhalts]

/-- Only a step of a worker is a turn, and of the one that streams for the target of the step. -/
theorem turn?_eq_some_iff {turn : WorkerTurn} :
    m.turn? policy label = some turn ↔
      ∃ target, label = .work target ∧ m.worker? target = some turn.worker ∧
        turn.worker.streams policy = true ∧
          turn.worker.inbox.next? (m.isCancelled turn.worker.id) turn.worker.session.hearsEvents =
            some (turn.signal, turn.inbox) := by
  cases label with
  | work target =>
      rw [turn?, Option.bind_eq_some_iff]
      refine ⟨?_, ?_⟩
      · rintro ⟨w, hw, hturn⟩
        obtain ⟨rfl, hstreams, hnext⟩ := nextTurn?_eq_some_iff.mp hturn
        exact ⟨target, rfl, hw, hstreams, hnext⟩
      · rintro ⟨target', htarget, hw, hstreams, hnext⟩
        obtain rfl := Label.work.inj htarget
        exact ⟨turn.worker, hw, nextTurn?_eq_some_iff.mpr ⟨rfl, hstreams, hnext⟩⟩
  | _ => simp [turn?]

/-- The worker that takes a turn is that of the target of the step. -/
theorem label_of_turn? {turn : WorkerTurn} (h : m.turn? policy label = some turn) :
    label = .work turn.worker.target ∧ turn.worker ∈ m.workers := by
  obtain ⟨target, rfl, hw, -⟩ := turn?_eq_some_iff.mp h
  exact ⟨by rw [target_of_worker? hw], mem_of_worker? hw⟩

/-- What a worker turns to decides its step. -/
theorem step_of_turn? {turn : WorkerTurn} (h : m.turn? policy label = some turn) :
    m.step policy sinks label =
      some (workOn sinks m turn.worker turn.signal turn.inbox) := by
  obtain ⟨target, rfl, hw, hstreams, hnext⟩ := turn?_eq_some_iff.mp h
  obtain ⟨hrunning, hticks⟩ := Worker.streams_iff.mp hstreams
  simp [step, hw, work, hrunning, hticks, hnext]

/-- What a worker does in a step of its own. -/
inductive Works (policy : Policy) (sinks : SinkInterface σ) (m : Manager σ) (label : Label) :
    Stepped σ → Prop where
  /-- It does not stream and ends. -/
  | halts (w : Worker) (ending : Ending) (mem : w ∈ m.workers)
      (halts : w.streams policy = false) : Works policy sinks m label (m.endWorker w ending [])
  | turns (turn : WorkerTurn) (turns : m.turn? policy label = some turn) :
      Works policy sinks m label (workOn sinks m turn.worker turn.signal turn.inbox)

/-- Without a turn, a worker can only halt. -/
theorem step_works {target : Target} (h : m.step policy sinks (.work target) = some r) :
    Works policy sinks m (.work target) r := by
  obtain ⟨w, hw, hwork⟩ := Option.bind_eq_some_iff.mp h
  unfold work at hwork
  split at hwork
  · rename_i hfinished
    obtain rfl := Option.some.inj hwork
    exact .halts w _ (mem_of_worker? hw) (by simp [Worker.streams, hfinished])
  · rename_i hfinished
    split at hwork
    · rename_i htick
      obtain rfl := Option.some.inj hwork
      exact .halts w _ (mem_of_worker? hw) (by simp [Worker.streams, htick])
    · rename_i htick
      split at hwork
      · cases hwork
      · rename_i signal inbox hnext
        obtain rfl := Option.some.inj hwork
        have hstreams : w.streams policy = true :=
          Worker.streams_iff.mpr ⟨by simpa using hfinished, by simpa using htick⟩
        exact .turns ⟨w, signal, inbox⟩
          (turn?_eq_some_iff.mpr ⟨target, rfl, hw, hstreams, hnext⟩)

/-! ## Where workers come from -/

/-- Where no worker takes the step, there is no turn. -/
theorem no_turn (h : ∀ target, label ≠ .work target) {turn : WorkerTurn} :
    m.turn? policy label ≠ some turn := by
  intro hturn
  exact h _ (label_of_turn? hturn).1

/-- Where a worker after a step comes from. -/
inductive Comes (policy : Policy) (m : Manager σ) (label : Label) (v : Worker) : Prop where
  /-- It took no turn; all that may have happened to it is that an input arrived. -/
  | kept (w : Worker) (mem : w ∈ m.workers) (inbox : Inbox) (same : v = { w with inbox := inbox })
      (waits : inbox = w.inbox ∨ ∃ input, inbox = w.inbox.add input)
      (idle : ∀ turn, m.turn? policy label = some turn → turn.worker.id ≠ w.id)
  /-- Its session has opened. -/
  | opened (call : Nat) (answer : Except WatchError (List Event))
      (own : label = .listed call answer) (setup : Setup) (pending : m.setupOf? call = some setup)
      (d : Deployment) (hearsEvents : Bool) (listing : setup.stage = .listing d hearsEvents)
      (opening : Opening)
      (opens : openSession? policy setup.request d (answer.toOption.getD []) hearsEvents m.now =
        some opening)
      (same : v = setup.worker opening)
  /-- It took a turn and goes on. -/
  | turned (turn : WorkerTurn) (turns : m.turn? policy label = some turn)
      (going : (turn.worker.session.take m.now turn.signal).ending = none)
      (same : v = { turn.worker with
        session := (turn.worker.session.take m.now turn.signal).session, inbox := turn.inbox })

/-- A worker that takes no turn in a step and gets no input stays as it is. -/
theorem Comes.unmoved {v : Worker} (hv : v ∈ m.workers)
    (idle : ∀ turn, m.turn? policy label = some turn → turn.worker.id ≠ v.id) :
    Comes policy m label v :=
  .kept v hv v.inbox rfl (.inl rfl) idle

/-- After a step a worker is what it was apart from what arrives for it, or it begins, or it has
taken a turn and goes on. -/
theorem kept_or_opened_or_turned_of_step (hstep : m.step policy sinks label = some r) {v : Worker}
    (hv : v ∈ r.1.workers) : Comes policy m label v := by
  have hcall : ∀ {call : Nat}, label.call? = some call → v ∈ m.workers →
      Comes policy m label v := by
    intro call hown hmem
    refine .unmoved hmem fun turn hturn => absurd hturn (no_turn fun target heq => ?_)
    rw [heq] at hown
    cases hown
  cases step_acts hstep with
  | returns returns => exact hcall returns.call? hv
  | waits looks found unannounced => exact hcall looks.call? hv
  | begins looks free room => exact hcall looks.call? hv
  | fails pending fails => exact hcall fails.call? hv
  | advances pending advances => exact hcall advances.call? hv
  | stops stops fresh => exact hcall (stops_call? stops) hv
  | reads fresh sound allowed => exact hcall rfl hv
  | @abandons call p pending =>
      have hmem : v ∈ m.workers := by
        cases p <;> exact hv
      exact hcall rfl hmem
  | @opens call setup d hearsEvents answer opening pending listing session =>
      rcases List.mem_append.mp hv with hv | hv
      · exact hcall rfl hv
      · exact .opened call answer rfl setup (setupOf?_of_call? pending) d hearsEvents listing
          opening session (List.mem_singleton.mp hv)
  | @reaches target input w found =>
      rcases mem_updateWorker hv with rfl | ⟨hv, -⟩
      · exact .kept w (mem_of_worker? found) _ rfl (.inr ⟨input, rfl⟩)
          fun turn hturn => absurd hturn (no_turn (by simp))
      · exact .unmoved hv fun turn hturn => absurd hturn (no_turn (by simp))
  | precedes | setClock | bind =>
      exact .unmoved hv fun turn hturn => absurd hturn (no_turn (by simp))
  | @ends world target w ending said found ends =>
      obtain ⟨hv, hid⟩ := List.mem_filter.mp hv
      refine .unmoved hv fun turn hturn hsame => ?_
      obtain ⟨_, hown, hfound, -⟩ := turn?_eq_some_iff.mp hturn
      obtain rfl := Label.work.inj hown
      obtain rfl := Option.some.inj (hfound.symm.trans found)
      simp [hsame] at hid
  | @turns world target w signal inbox found running ticks next going =>
      have hturn : m.turn? policy (.work target) = some ⟨w, signal, inbox⟩ :=
        turn?_eq_some_iff.mpr ⟨target, rfl, found, Worker.streams_iff.mpr ⟨running, ticks⟩, next⟩
      rcases mem_updateWorker hv with rfl | ⟨hv, hid⟩
      · exact .turned _ hturn going rfl
      · refine .unmoved hv fun turn hturn' => ?_
        obtain rfl := Option.some.inj (hturn.symm.trans hturn')
        exact Ne.symm hid

/-! ## What is said -/

/-- What occurs as effects take place says what the effects say, about their target. -/
theorem delivery_of_performAll {sink sink' : Nat} {place target : Target} {world : σ}
    {effects : List Effect} {u : Update} {fate : Fate}
    (h : .delivered sink' target u fate ∈ (performAll sinks sink place world effects).2) :
    place = target ∧ ∃ d, .delivery d ∈ effects ∧ d.update = u := by
  induction effects generalizing world with
  | nil => cases h
  | cons e rest ih =>
      rcases List.mem_cons.mp h with hfirst | hrest
      · cases e with
        | delivery d =>
            cases d with
            | offered v =>
                dsimp only at hfirst
                rcases hoffer : sinks.offer world sink place v with ⟨world', refusal⟩
                rw [hoffer] at hfirst
                cases refusal <;> cases hfirst <;> exact ⟨rfl, _, List.mem_cons_self, rfl⟩
            | coalesced v =>
                cases hfirst
                exact ⟨rfl, _, List.mem_cons_self, rfl⟩
        | watchError stream kind => cases hfirst
        | stall => cases hfirst
      · obtain ⟨hplace, d, hd, hupdate⟩ := ih hrest
        exact ⟨hplace, d, List.mem_cons_of_mem _ hd, hupdate⟩

/-- What a worker says in a turn, and what is left if it goes on or ends. -/
theorem workOn_occurred (m : Manager σ) (w : Worker) (signal : Signal) (inbox : Inbox) :
    (workOn sinks m w signal inbox).2 =
      (performAll sinks w.sink w.target m.sinks (w.session.take m.now signal).effects).2 ++
        ((w.session.take m.now signal).ending.map (Occurrence.closed w.target)).toList := by
  unfold workOn
  dsimp only
  split
  · rename_i ending hending
    rw [hending]
    rfl
  · rename_i hgoing
    rw [hgoing]
    exact (List.append_nil _).symm

/-- On which occasions an update about a target is said. -/
inductive Speaks (policy : Policy) (m : Manager σ) (label : Label) (target : Target) (u : Update) :
    Prop where
  /-- A session opens. -/
  | opening (call : Nat) (answer : Except WatchError (List Event))
      (own : label = .listed call answer) (setup : Setup) (pending : m.setupOf? call = some setup)
      (about : setup.request.target = target) (d : Deployment) (hearsEvents : Bool)
      (listing : setup.stage = .listing d hearsEvents) (opening : Opening)
      (opens : openSession? policy setup.request d (answer.toOption.getD []) hearsEvents m.now =
        some opening)
      (delivery : Delivery) (mem : .delivery delivery ∈ opening.effects)
      (update : delivery.update = u)
  /-- A worker turns to a signal. -/
  | turn (turn : WorkerTurn) (turns : m.turn? policy label = some turn)
      (about : turn.worker.target = target) (delivery : Delivery)
      (mem : .delivery delivery ∈ (turn.worker.session.take m.now turn.signal).effects)
      (update : delivery.update = u)

/-- What a worker says in a step of its own its session says in a turn. -/
theorem speaks_of_work {place target : Target}
    (hstep : m.step policy sinks (.work place) = some r) {sink : Nat} {u : Update} {fate : Fate}
    (hu : .delivered sink target u fate ∈ r.2) : Speaks policy m (.work place) target u := by
  cases step_works hstep with
  | halts w ending mem halts => simp [endWorker] at hu
  | turns turn turns =>
      rw [workOn_occurred] at hu
      rcases List.mem_append.mp hu with hsaid | hlast
      · obtain ⟨habout, d, hd, hupdate⟩ := delivery_of_performAll hsaid
        exact .turn turn turns habout d hd hupdate
      · cases hending : (turn.worker.session.take m.now turn.signal).ending <;>
          simp [hending] at hlast

/-- Whatever is said in a step belongs to an opening or to a turn. -/
theorem step_speaks (hstep : m.step policy sinks label = some r) {sink : Nat} {target : Target}
    {u : Update} {fate : Fate} (hu : .delivered sink target u fate ∈ r.2) :
    Speaks policy m label target u := by
  have hnoAside : ∀ {said : List Occurrence}, (∀ o ∈ said, o.isAside = true) →
      .delivered sink target u fate ∉ said :=
    fun haside hmem => absurd (haside _ hmem) (by simp [Occurrence.isAside])
  cases step_acts hstep with
  | opens pending listing session =>
      rcases List.mem_append.mp hu with hsaid | hlast
      · obtain ⟨habout, d, hd, hupdate⟩ := delivery_of_performAll hsaid
        exact .opening _ _ rfl _ (setupOf?_of_call? pending) habout _ _ listing _ session d hd
          hupdate
      · simp at hlast
  | ends | turns => exact speaks_of_work hstep hu
  | returns | fails =>
      exact absurd hu (hnoAside (by simp [Occurrence.isAside]))
  | begins | advances | reads => exact absurd hu (hnoAside (by simp [advance, Occurrence.isAside]))
  | waits | abandons | stops | reaches | precedes | setClock | bind => cases hu

end Manager
end ProvisionWatch

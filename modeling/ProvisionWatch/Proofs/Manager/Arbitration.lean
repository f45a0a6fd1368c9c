import ProvisionWatch.Proofs.Manager.LaneSteps
import ProvisionWatch.Proofs.Manager.Stopping
import ProvisionWatch.Proofs.Manager.Turns

/-!
# What a worker turns to first

Many things can wait for a worker at once.  The word to stop goes before all of
them, then come the changes in their order, then the events, then the timer.  So a
worker that was told to stop takes nothing more, whatever waits and whatever
arrives until its next turn; and what waits in the stream of changes is taken
before any event and before the deadline is looked at.

Main results:

- Theorem `next?_eq_some_iff`: the signal that is taken is the one of least rank
  among those that are ready.
- Theorem `run_halts`: a worker that was told to stop stands still until its next
  turn, and that is its end.
- Theorem `run_takes_changes_first`: the changes that wait for a worker are its
  next turns.
- Theorem `cancellation_wins`: both, in every state that can be reached.
-/

namespace ProvisionWatch

/-! ## Signals that are ready -/

/-- Who goes first: the word to stop, then changes, then events, then the timer. -/
def Signal.rank : Signal → Nat
  | cancel => 0
  | input (.resource _) => 1
  | input (.event _) => 2
  | input .tick => 3

namespace Inbox

variable {b rest : Inbox} {cancelled hearsEvents : Bool} {signal : Signal}

/-- A signal is ready for a session: it is the first of its kind that waits, and events are
ready only where there is a stream of them. -/
inductive Ready (b : Inbox) (cancelled hearsEvents : Bool) : Signal → Prop where
  | cancel (told : cancelled = true) : Ready b cancelled hearsEvents .cancel
  | resource {item : ResourceItem} (first : b.resources.head? = some item) :
      Ready b cancelled hearsEvents (.input (.resource item))
  | event {item : EventItem} (hears : hearsEvents = true) (first : b.events.head? = some item) :
      Ready b cancelled hearsEvents (.input (.event item))
  | tick (due : b.tickDue = true) : Ready b cancelled hearsEvents (.input .tick)

/-- A signal goes first: it is ready, and none of a lesser rank is. -/
structure GoesFirst (b : Inbox) (cancelled hearsEvents : Bool) (signal : Signal) : Prop where
  ready : b.Ready cancelled hearsEvents signal
  least : ∀ other, b.Ready cancelled hearsEvents other → signal.rank ≤ other.rank

/-- What waits once a signal was taken. -/
def without (b : Inbox) : Signal → Inbox
  | .cancel => b
  | .input (.resource _) => { b with resources := b.resources.tail }
  | .input (.event _) => { b with events := b.events.tail }
  | .input .tick => { b with tickDue := false }

theorem GoesFirst.not_cancelled (h : b.GoesFirst cancelled hearsEvents signal)
    (hrank : 0 < signal.rank) : cancelled = false := by
  cases cancelled with
  | false => rfl
  | true => exact absurd (h.least _ (.cancel rfl)) (Nat.not_le.mpr hrank)

theorem GoesFirst.no_resources (h : b.GoesFirst cancelled hearsEvents signal)
    (hrank : 1 < signal.rank) : b.resources = [] := by
  cases hfirst : b.resources.head? with
  | none => exact List.head?_eq_none_iff.mp hfirst
  | some item => exact absurd (h.least _ (.resource hfirst)) (Nat.not_le.mpr hrank)

theorem GoesFirst.no_events (h : b.GoesFirst cancelled hearsEvents signal)
    (hrank : 2 < signal.rank) : (if hearsEvents then b.events else []) = [] := by
  cases hearsEvents with
  | false => rfl
  | true =>
      cases hfirst : b.events.head? with
      | none => exact List.head?_eq_none_iff.mp hfirst
      | some item => exact absurd (h.least _ (.event rfl hfirst)) (Nat.not_le.mpr hrank)

/-- The signal that goes first is the one that is taken. -/
theorem next?_of_goesFirst (h : b.GoesFirst cancelled hearsEvents signal) :
    b.next? cancelled hearsEvents = some (signal, b.without signal) := by
  cases h.ready with
  | cancel told =>
      rw [told]
      rfl
  | resource first =>
      obtain ⟨later, hlater⟩ := List.head?_eq_some_iff.mp first
      rw [h.not_cancelled Nat.one_pos, next?_change b hearsEvents _ later hlater, without, hlater]
      rfl
  | event hears first =>
      obtain ⟨later, hlater⟩ := List.head?_eq_some_iff.mp first
      have hno := h.no_resources (by simp [Signal.rank])
      simp [next?, h.not_cancelled (by simp [Signal.rank]), hno, hears, hlater, without]
  | tick due =>
      have hnone := h.no_events (by simp [Signal.rank])
      have hno := h.no_resources (by simp [Signal.rank])
      simp [next?, h.not_cancelled (by simp [Signal.rank]), hno, hnone, due, without]

/-- Where something is ready, something goes first. -/
theorem exists_goesFirst (h : b.Ready cancelled hearsEvents signal) :
    ∃ first, b.GoesFirst cancelled hearsEvents first := by
  induction hrank : signal.rank using Nat.strong_induction_on generalizing signal with
  | _ rank ih =>
      by_cases hleast : ∀ other, b.Ready cancelled hearsEvents other → signal.rank ≤ other.rank
      · exact ⟨signal, h, hleast⟩
      · simp only [not_forall, Nat.not_le] at hleast
        obtain ⟨other, hother, hlt⟩ := hleast
        exact ih other.rank (hrank ▸ hlt) hother rfl

/-- Where nothing is ready, nothing is taken. -/
theorem next?_of_nothing_ready (h : ∀ signal, ¬ b.Ready cancelled hearsEvents signal) :
    b.next? cancelled hearsEvents = none := by
  have hcancelled : cancelled = false := by
    cases cancelled with
    | false => rfl
    | true => exact absurd (.cancel rfl) (h .cancel)
  have hresources : b.resources = [] := by
    cases hfirst : b.resources.head? with
    | none => exact List.head?_eq_none_iff.mp hfirst
    | some item => exact absurd (.resource hfirst) (h _)
  have hevents : (if hearsEvents then b.events else []) = [] := by
    cases hearsEvents with
    | false => rfl
    | true =>
        cases hfirst : b.events.head? with
        | none => exact List.head?_eq_none_iff.mp hfirst
        | some item => exact absurd (.event rfl hfirst) (h _)
  have htick : b.tickDue = false := by
    cases hdue : b.tickDue with
    | false => rfl
    | true => exact absurd (.tick hdue) (h _)
  simp [next?, hcancelled, hresources, hevents, htick]

/-- What is taken is what goes first; where nothing is ready, nothing is taken. -/
theorem next?_eq_some_iff :
    b.next? cancelled hearsEvents = some (signal, rest) ↔
      b.GoesFirst cancelled hearsEvents signal ∧ rest = b.without signal := by
  refine ⟨fun h => ?_, fun ⟨hfirst, hrest⟩ => hrest ▸ next?_of_goesFirst hfirst⟩
  by_cases hready : ∃ other, b.Ready cancelled hearsEvents other
  · obtain ⟨other, hother⟩ := hready
    obtain ⟨first, hfirst⟩ := exists_goesFirst hother
    rw [next?_of_goesFirst hfirst] at h
    obtain ⟨rfl, rfl⟩ := Prod.mk.inj (Option.some.inj h)
    exact ⟨hfirst, rfl⟩
  · rw [next?_of_nothing_ready (not_exists.mp hready)] at h
    cases h

/-- While a change waits, all that can go before it is the word to stop. -/
theorem GoesFirst.eq_of_resource (h : b.GoesFirst cancelled hearsEvents signal)
    {item : ResourceItem} (hfirst : b.resources.head? = some item) :
    signal = .cancel ∨ signal = .input (.resource item) := by
  have hrank := h.least _ (.resource hfirst)
  cases h.ready with
  | cancel told => exact .inl rfl
  | resource first =>
      obtain rfl := Option.some.inj (first.symm.trans hfirst)
      exact .inr rfl
  | event hears first => simp [Signal.rank] at hrank
  | tick due => simp [Signal.rank] at hrank

end Inbox

namespace Manager

variable {σ : Type} {policy : Policy} {sinks : SinkInterface σ} {perCallerLimit globalLimit : Nat}
variable {m m' : Manager σ} {label : Label} {r : Stepped σ} {w : Worker} {more : List Occurrence}

/-! ## Where workers go -/

theorem mem_updateWorker_self {v : Worker} (hv : v ∈ m.workers) (hid : w.id = v.id) :
    w ∈ (m.updateWorker w).workers :=
  List.mem_map.mpr ⟨v, hv, if_pos (beq_iff_eq.mpr hid.symm)⟩

theorem mem_updateWorker_of_ne {v : Worker} (hv : v ∈ m.workers) (hid : v.id ≠ w.id) :
    v ∈ (m.updateWorker w).workers :=
  List.mem_map.mpr ⟨v, hv, if_neg (by simpa using hid)⟩

/-- Nothing occurred for a target. -/
def Silent (target : Target) (occurred : List Occurrence) : Prop :=
  ∀ o ∈ occurred, o.concerns target [] = false

theorem silent_of_isAside {target : Target} (h : ∀ o ∈ more, o.isAside = true) :
    Silent target more := by
  intro o ho
  have haside := h o ho
  cases o with
  | asked | returned => rfl
  | opened | delivered | watchError | stalled | closed => cases haside

theorem silent_performAll {place target : Target} (hne : place ≠ target) (sink : Nat) (world : σ)
    (effects : List Effect) :
    Silent target (performAll sinks sink place world effects).2 := by
  intro o ho
  rw [concerns_performAll sinks sink place world effects o ho]
  simpa using hne

/-- Whatever a worker of another target says last, nothing occurs for the target. -/
theorem Ends.silent {v : Worker} {ending : Ending} {said : List Occurrence} {target : Target}
    (h : Ends policy sinks m v ending said) (hne : v.target ≠ target) : Silent target said := by
  cases h with
  | finished | brokeDown => exact List.forall_mem_nil _
  | turned => exact silent_performAll hne _ _ _

/-- Where a worker goes in a step. -/
inductive Goes (policy : Policy) (m : Manager σ) (label : Label) (w : Worker) (r : Stepped σ) :
    Prop where
  /-- It takes no turn, and nothing occurs for its target; all that may happen to it is that an
  input arrives. -/
  | kept (inbox : Inbox) (mem : { w with inbox := inbox } ∈ r.1.workers)
      (waits : inbox = w.inbox ∨ ∃ input, inbox = w.inbox.add input)
      (idle : ∀ turn, m.turn? policy label = some turn → turn.worker.id ≠ w.id)
      (silent : Silent w.target r.2)
  /-- It takes a turn and goes on. -/
  | turned (turn : WorkerTurn) (turns : m.turn? policy label = some turn) (own : turn.worker = w)
      (going : (w.session.take m.now turn.signal).ending = none)
      (mem : { w with
        session := (w.session.take m.now turn.signal).session, inbox := turn.inbox } ∈ r.1.workers)
  /-- It ends. -/
  | ended (own : label = .work w.target) (gone : r.1.Gone w.id)

/-- A worker that is still there after something else than work stays as it is. -/
theorem Goes.unmoved (hlabel : ∀ target, label ≠ .work target) (hmem : w ∈ r.1.workers)
    (hsilent : Silent w.target r.2) : Goes policy m label w r :=
  .kept w.inbox hmem (.inl rfl) (fun _ hturn => absurd hturn (no_turn hlabel)) hsilent

/-- Calls are something else than work. -/
theorem Goes.of_call {call : Nat} (hcall : label.call? = some call) (hmem : w ∈ r.1.workers)
    (hsilent : Silent w.target r.2) : Goes policy m label w r := by
  refine .unmoved (fun target heq => ?_) hmem hsilent
  rw [heq] at hcall
  cases hcall

/-- A session that opens speaks for the target of its setup, which has no worker yet. -/
theorem silent_opening (hledger : Ledger perCallerLimit globalLimit m) (hw : w ∈ m.workers)
    {call : Nat} {setup : Setup} (hpending : m.call? call = some (.settingUp setup))
    (effects : List Effect) (result : CallResult) :
    Silent w.target ((performAll sinks setup.sink setup.request.target m.sinks effects).2 ++
      [.opened setup.request.target, .returned call result]) := by
  have hne : w.target ≠ setup.request.target :=
    hledger.target_ne_of_setup (mem_setups hledger.distinct (setupOf?_of_call? hpending)) hw
  intro o ho
  rcases List.mem_append.mp ho with ho | ho
  · exact silent_performAll hne.symm _ _ _ o ho
  · rcases List.mem_cons.mp ho with rfl | ho
    · simpa [Occurrence.concerns] using hne.symm
    · obtain rfl := List.mem_singleton.mp ho
      rfl

/-- An input arrives for a worker, or for another one. -/
theorem goes_of_arrival (hledger : Ledger perCallerLimit globalLimit m) (hw : w ∈ m.workers)
    {target : Target} {v : Worker} (hfound : m.worker? target = some v) (input : Input) :
    Goes policy m (.arrive target input) w
      (m.updateWorker { v with inbox := v.inbox.add input }, []) := by
  have hidle : ∀ turn, m.turn? policy (.arrive target input) = some turn →
      turn.worker.id ≠ w.id := fun turn hturn => absurd hturn (no_turn (by simp))
  by_cases hid : w.id = v.id
  · obtain rfl := hledger.distinct.worker_eq hw (mem_of_worker? hfound) hid
    exact .kept _ (mem_updateWorker_self hw rfl) (.inr ⟨input, rfl⟩) hidle
      (List.forall_mem_nil _)
  · exact .kept _ (mem_updateWorker_of_ne hw hid) (.inl rfl) hidle (List.forall_mem_nil _)

/-- A worker ends, or another one does. -/
theorem goes_of_ends (hledger : Ledger perCallerLimit globalLimit m) (hw : w ∈ m.workers)
    {target : Target} {v : Worker} {ending : Ending} {said : List Occurrence}
    (hfound : m.worker? target = some v) (hends : Ends policy sinks m v ending said) (world : σ) :
    Goes policy m (.work target) w
      (({ m with sinks := world } : Manager σ).endWorker v ending said) := by
  have hv := mem_of_worker? hfound
  by_cases hid : w.id = v.id
  · obtain rfl := hledger.distinct.worker_eq hw hv hid
    refine .ended (by rw [target_of_worker? hfound]) ⟨hledger.ids_lt_of_worker hw, fun e he => ?_⟩
    simpa using (List.mem_filter.mp he).2
  · have hne := hledger.target_ne_of_id hw hv hid
    refine .kept w.inbox (List.mem_filter.mpr ⟨hw, by simpa using hid⟩) (.inl rfl) ?_ ?_
    · intro turn hturn heq
      obtain ⟨_, hown, hfound', -⟩ := turn?_eq_some_iff.mp hturn
      obtain rfl := Label.work.inj hown
      obtain rfl := Option.some.inj (hfound'.symm.trans hfound)
      exact hid heq.symm
    · intro o ho
      rcases List.mem_append.mp ho with ho | ho
      · exact hends.silent hne o ho
      · obtain rfl := List.mem_singleton.mp ho
        simpa [Occurrence.concerns] using hne

/-- A worker takes a turn and goes on, or another one does. -/
theorem goes_of_turn (hledger : Ledger perCallerLimit globalLimit m) (hw : w ∈ m.workers)
    {turn : WorkerTurn} (hturn : m.turn? policy label = some turn)
    (hgoing : (turn.worker.session.take m.now turn.signal).ending = none) (world : σ) :
    Goes policy m label w
      (({ m with sinks := world } : Manager σ).updateWorker
          { turn.worker with
            session := (turn.worker.session.take m.now turn.signal).session
            inbox := turn.inbox },
        (performAll sinks turn.worker.sink turn.worker.target m.sinks
          (turn.worker.session.take m.now turn.signal).effects).2) := by
  have hv := (label_of_turn? hturn).2
  by_cases hid : w.id = turn.worker.id
  · obtain rfl := hledger.distinct.worker_eq hw hv hid
    exact .turned turn hturn rfl hgoing (mem_updateWorker_self hw rfl)
  · refine .kept w.inbox (mem_updateWorker_of_ne hw hid) (.inl rfl) (fun turn' hturn' heq => ?_)
      (silent_performAll (hledger.target_ne_of_id hw hv hid) _ _ _)
    obtain rfl := Option.some.inj (hturn.symm.trans hturn')
    exact hid heq.symm

/-- In a step a worker stays what it is apart from what arrives for it, or takes a turn and goes on,
or ends in a step of its own. -/
theorem kept_or_turned_or_ended_of_step (hledger : Ledger perCallerLimit globalLimit m)
    (hw : w ∈ m.workers) (hstep : m.step policy sinks label = some r) :
    Goes policy m label w r := by
  have hnothing : Silent w.target ([] : List Occurrence) := List.forall_mem_nil _
  cases step_acts hstep with
  | returns returns =>
      exact .of_call returns.call? hw
        (silent_of_isAside (by simp [Occurrence.isAside]))
  | waits looks found unannounced => exact .of_call looks.call? hw hnothing
  | begins looks free room =>
      exact .of_call looks.call? hw (silent_of_isAside (by simp [Occurrence.isAside]))
  | fails pending fails =>
      exact .of_call fails.call? hw
        (silent_of_isAside (by simp [Occurrence.isAside]))
  | advances pending advances =>
      exact .of_call advances.call? hw
        (silent_of_isAside (by simp [advance, Occurrence.isAside]))
  | opens pending listing session =>
      exact .of_call rfl (List.mem_append_left _ hw) (silent_opening hledger hw pending _ _)
  | @abandons call p pending =>
      refine .of_call rfl ?_ hnothing
      cases p <;> exact hw
  | stops stops fresh => exact .of_call (stops_call? stops) hw hnothing
  | reads fresh sound allowed =>
      exact .of_call rfl hw (silent_of_isAside (by simp [Occurrence.isAside]))
  | reaches found => exact goes_of_arrival hledger hw found _
  | precedes | setClock | bind => exact .unmoved (by simp) hw hnothing
  | ends world found ends => exact goes_of_ends hledger hw found ends world
  | @turns world target v signal inbox found running ticks next going =>
      have hturn : m.turn? policy (.work target) = some ⟨v, signal, inbox⟩ :=
        turn?_eq_some_iff.mpr ⟨target, rfl, found, Worker.streams_iff.mpr ⟨running, ticks⟩, next⟩
      exact goes_of_turn hledger hw hturn going world

/-! ## Workers that were told to stop -/

/-- A worker stands still: whatever waits for it, its session is what it was, and its next turn is
its end.  It is cancelled then, and nothing is handed over. -/
def StandsStill (policy : Policy) (sinks : SinkInterface σ) (w : Worker) (m : Manager σ) : Prop :=
  ∃ inbox, { w with inbox := inbox } ∈ m.workers ∧
    m.step policy sinks (.work w.target) =
      some (m.endWorker { w with inbox := inbox } .cancelled [])

theorem standsStill_of_doomed (hledger : Ledger perCallerLimit globalLimit m) (hw : w ∈ m.workers)
    (hstreams : w.streams policy = true) (hdoomed : m.Doomed w.id) :
    StandsStill policy sinks w m := by
  obtain ⟨hrunning, hticks⟩ := Worker.streams_iff.mp hstreams
  have hhalts : w.haltedBy policy = .cancelled := by
    rw [Worker.haltedBy, if_neg (by simp [hrunning]), if_neg (by simp [hticks])]
  refine ⟨w.inbox, hw, ?_⟩
  rw [← hhalts]
  exact step_work_of_doomed hledger hw hdoomed

/-- What becomes of a worker that was told to stop in a run: it stands still and nothing occurs for
its target, to the end of the run or up to its next turn, which is its end. -/
inductive Halts (policy : Policy) (sinks : SinkInterface σ) (m : Manager σ) (w : Worker)
    (labels : List Label) (m' : Manager σ) (more : List Occurrence) : Prop where
  | waiting (still : StandsStill policy sinks w m') (silent : Silent w.target more)
  | halted (before after : List Label) (turns : labels = before ++ .work w.target :: after)
      (last : Manager σ) (said : List Occurrence)
      (run : m.run policy sinks before = some (last, said))
      (still : StandsStill policy sinks w last) (silent : Silent w.target said)

/-- A worker that was told to stop stands still until its next turn, and that is its end. -/
theorem run_halts {labels : List Label} (hledger : Ledger perCallerLimit globalLimit m)
    (hw : w ∈ m.workers) (hstreams : w.streams policy = true) (hdoomed : m.Doomed w.id)
    (hrun : m.run policy sinks labels = some (m', more)) :
    Halts policy sinks m w labels m' more := by
  induction labels generalizing m w more with
  | nil =>
      obtain ⟨rfl, rfl⟩ := Prod.mk.inj (Option.some.inj hrun)
      exact .waiting (standsStill_of_doomed hledger hw hstreams hdoomed) (List.forall_mem_nil _)
  | cons label rest ih =>
      obtain ⟨⟨next, first⟩, ⟨last, later⟩, hfirst, hlater, heq⟩ := run_cons_eq_some_iff.mp hrun
      obtain ⟨rfl, rfl⟩ := Prod.mk.inj heq
      cases kept_or_turned_or_ended_of_step hledger hw hfirst with
      | kept inbox mem waits idle silent =>
          have hnext := (step_acts hfirst).doomed hdoomed
          have happend : ∀ {said : List Occurrence}, Silent w.target said →
              Silent w.target (first ++ said) :=
            fun hsaid => List.forall_mem_append.mpr ⟨silent, hsaid⟩
          cases ih (step_ledger hledger hfirst) mem hstreams hnext hlater with
          | waiting still quiet => exact .waiting still (happend quiet)
          | halted before after turns halt said run still quiet =>
              refine .halted (label :: before) after (congrArg (label :: ·) turns) halt
                (first ++ said) ?_ still (happend quiet)
              exact run_cons_eq_some_iff.mpr ⟨_, _, hfirst, run, rfl⟩
      | turned turn turns own going mem =>
          subst own
          obtain ⟨-, -, -, -, hnext⟩ := turn?_eq_some_iff.mp turns
          rw [hdoomed.isCancelled hledger hw, Inbox.next?_cancelled] at hnext
          obtain ⟨hcancel, -⟩ := Prod.mk.inj (Option.some.inj hnext)
          rw [← hcancel] at going
          cases going
      | ended own gone =>
          exact .halted [] rest (congrArg (· :: rest) own) m [] rfl
            (standsStill_of_doomed hledger hw hstreams hdoomed) (List.forall_mem_nil _)

/-- A call to stop tells the workers it means, at once, and takes them nothing away. -/
theorem step_tells {call : Nat} {test : Entry → Bool} (hstops : label.Stops call test)
    (hledger : Ledger perCallerLimit globalLimit m) (hw : w ∈ m.workers)
    (hmeans : ∀ e : Entry, e.target = w.target → test e = true) (hfresh : m.call? call = none) :
    ∃ told, m.step policy sinks label = some (told, []) ∧ w ∈ told.workers ∧
      told.isCancelled w.id = true := by
  obtain ⟨e, he, hid, htarget⟩ := hledger.entry_of_slot (slot_mem_of_worker hw)
  have htest : test e = true := hmeans e htarget
  have hpossible : ∃ r, m.step policy sinks label = some r := by
    cases hstops with
    | unsubscribe | shutdown => simp [step, ifFresh, hfresh]
  obtain ⟨r, hstep⟩ := hpossible
  obtain rfl := step_of_stops hstops he htest hstep
  refine ⟨_, hstep, hw, List.any_eq_true.mpr ⟨{ e with cancelled := true }, ?_, ?_⟩⟩
  · exact List.mem_map.mpr ⟨e, he, if_pos htest⟩
  · rw [Bool.and_true, beq_iff_eq]
    exact hid

/-! ## Workers that go on -/

/-- The signal that the worker with some number turns to in a step. -/
def ownTurn? (policy : Policy) (m : Manager σ) (id : Nat) (label : Label) : Option Signal :=
  (m.turn? policy label).bind fun turn => if turn.worker.id = id then some turn.signal else none

/-- The signals that the worker with some number turns to in a run, in order. -/
def turnsOf (policy : Policy) (sinks : SinkInterface σ) (id : Nat) :
    Manager σ → List Label → List Signal
  | _, [] => []
  | m, label :: rest =>
      (m.ownTurn? policy id label).toList ++
        match m.step policy sinks label with
        | none => []
        | some r => turnsOf policy sinks id r.1 rest

theorem ownTurn?_of_turn {turn : WorkerTurn} (hturn : m.turn? policy label = some turn) :
    m.ownTurn? policy turn.worker.id label = some turn.signal := by
  rw [ownTurn?, hturn, Option.bind_some, if_pos rfl]

theorem ownTurn?_of_idle {id : Nat}
    (idle : ∀ turn, m.turn? policy label = some turn → turn.worker.id ≠ id) :
    m.ownTurn? policy id label = none :=
  Option.bind_eq_none_iff.mpr fun turn hturn => if_neg (idle turn hturn)

theorem turnsOf_cons {id : Nat} {labels : List Label}
    (hstep : m.step policy sinks label = some r) :
    turnsOf policy sinks id m (label :: labels) =
      (m.ownTurn? policy id label).toList ++ turnsOf policy sinks id r.1 labels := by
  rw [turnsOf, hstep]

/-- A worker that is gone takes no more turns. -/
theorem turnsOf_of_gone {id : Nat} {labels : List Label}
    (hledger : Ledger perCallerLimit globalLimit m) (hgone : m.Gone id) :
    turnsOf policy sinks id m labels = [] := by
  induction labels generalizing m with
  | nil => rfl
  | cons label rest ih =>
      have hidle : ∀ turn, m.turn? policy label = some turn → turn.worker.id ≠ id :=
        fun turn hturn => (hgone.released hledger).worker _ (label_of_turn? hturn).2
      rw [turnsOf, ownTurn?_of_idle hidle]
      split
      · rfl
      · rename_i r hstep
        exact ih (step_ledger hledger hstep) ((step_acts hstep).gone hgone)

/-- While a change waits for a worker it turns to nothing but that change, or the word to stop. -/
theorem signal_of_waiting {turn : WorkerTurn} (hturn : m.turn? policy label = some turn)
    {item : ResourceItem} (hfirst : turn.worker.inbox.resources[0]? = some item) :
    turn.signal = .cancel ∨ turn.signal = .input (.resource item) ∧
      turn.inbox.resources = turn.worker.inbox.resources.tail := by
  obtain ⟨-, -, -, -, hnext⟩ := turn?_eq_some_iff.mp hturn
  obtain ⟨hgoes, hrest⟩ := Inbox.next?_eq_some_iff.mp hnext
  rcases hgoes.eq_of_resource (List.head?_eq_getElem? ▸ hfirst) with hcancel | hresource
  · exact .inl hcancel
  · refine .inr ⟨hresource, ?_⟩
    rw [hrest, hresource]
    rfl

/-- The changes that wait for a worker are its next turns, unless it is told to stop. -/
theorem run_takes_changes_first {labels : List Label}
    (hledger : Ledger perCallerLimit globalLimit m) (hw : w ∈ m.workers)
    (hrun : m.run policy sinks labels = some (m', more)) {i : Nat} {item : ResourceItem}
    (hitem : w.inbox.resources[i]? = some item) {signal : Signal}
    (hsignal : (turnsOf policy sinks w.id m labels)[i]? = some signal) :
    signal = .cancel ∨ signal = .input (.resource item) := by
  induction labels generalizing m w i more with
  | nil => simp [turnsOf] at hsignal
  | cons label rest ih =>
      obtain ⟨⟨next, first⟩, ⟨last, later⟩, hfirst, hlater, heq⟩ := run_cons_eq_some_iff.mp hrun
      obtain ⟨rfl, -⟩ := Prod.mk.inj heq
      have hnext := step_ledger hledger hfirst
      rw [turnsOf_cons hfirst] at hsignal
      cases kept_or_turned_or_ended_of_step hledger hw hfirst with
      | kept inbox mem waits idle silent =>
          rw [ownTurn?_of_idle idle] at hsignal
          refine ih hnext mem hlater ?_ hsignal
          rcases waits with rfl | ⟨input, rfl⟩
          · exact hitem
          · cases input with
            | resource arrived =>
                show (w.inbox.resources ++ [arrived])[i]? = some item
                rw [List.getElem?_append_left (List.getElem?_eq_some_iff.mp hitem).1]
                exact hitem
            | event | tick => exact hitem
      | turned turn turns own going mem =>
          subst own
          rw [ownTurn?_of_turn turns] at hsignal
          cases i with
          | zero =>
              obtain rfl : turn.signal = signal := by simpa using hsignal
              exact (signal_of_waiting turns hitem).imp_right And.left
          | succ i =>
              obtain ⟨head, hhead⟩ : ∃ head, turn.worker.inbox.resources[0]? = some head :=
                ⟨_, List.getElem?_eq_getElem
                  (Nat.zero_lt_of_lt (List.getElem?_eq_some_iff.mp hitem).1)⟩
              rcases signal_of_waiting turns hhead with hcancel | ⟨-, htail⟩
              · rw [hcancel] at going
                cases going
              · refine ih hnext mem hlater ?_ (by simpa using hsignal)
                show turn.inbox.resources[i]? = some item
                rw [htail, List.getElem?_tail]
                exact hitem
      | ended own gone =>
          rw [turnsOf_of_gone hnext gone, List.append_nil] at hsignal
          cases hown : m.ownTurn? policy w.id label with
          | none => simp [hown] at hsignal
          | some taken =>
              obtain ⟨turn, hturn, htaken⟩ := Option.bind_eq_some_iff.mp hown
              split at htaken
              · rename_i hid
                obtain rfl := hledger.distinct.worker_eq (label_of_turn? hturn).2 hw hid
                rw [hown] at hsignal
                cases i with
                | zero =>
                    obtain rfl : taken = signal := by simpa using hsignal
                    obtain rfl := Option.some.inj htaken
                    exact (signal_of_waiting hturn hitem).imp_right And.left
                | succ i => simp at hsignal
              · cases htaken

/-! ## What goes first -/

/-- What a worker turns to in its next step is what goes first of all that is ready for it; it takes
no step while nothing is. -/
theorem turn?_iff_goesFirst (hledger : Ledger perCallerLimit globalLimit m) (hw : w ∈ m.workers)
    (hstreams : w.streams policy = true) {turn : WorkerTurn} :
    m.turn? policy (.work w.target) = some turn ↔
      turn.worker = w ∧
        w.inbox.GoesFirst (m.isCancelled w.id) w.session.hearsEvents turn.signal ∧
          turn.inbox = w.inbox.without turn.signal := by
  rw [turn?, hledger.worker?_eq hw, Option.bind_some, nextTurn?_eq_some_iff,
    Inbox.next?_eq_some_iff]
  simp [hstreams]

/-- In every state that can be reached, for every worker that streams, whatever waits for it.  A
call to stop it, alone or with all others, tells it so at once.  From then on it stands still and
nothing occurs for its target until its next turn, in which it ends as cancelled.  A worker that was
not told to stop turns to the signal that goes first among those that are ready: a change, else an
event, else the timer.  So the changes that wait are its next turns, before any event and any look
at the deadline, unless the word to stop comes between. -/
theorem cancellation_wins {now : Instant} {world : σ} {bound : Option Nat} {labels : List Label}
    {occurred : List Occurrence}
    (hrun : (Manager.start now world bound (Quota.new perCallerLimit globalLimit)).run policy sinks
      labels = some (m, occurred)) (hw : w ∈ m.workers) (hstreams : w.streams policy = true) :
    (∀ call label, label = .unsubscribe call w.target ∨ label = .shutdown call →
        m.call? call = none →
          ∃ told, m.step policy sinks label = some (told, []) ∧ w ∈ told.workers ∧
            told.isCancelled w.id = true) ∧
      (m.isCancelled w.id = true → ∀ later m' more, m.run policy sinks later = some (m', more) →
        Halts policy sinks m w later m' more) ∧
      (m.isCancelled w.id = false →
        (∀ turn, m.turn? policy (.work w.target) = some turn ↔
          turn.worker = w ∧ w.inbox.GoesFirst false w.session.hearsEvents turn.signal ∧
            turn.inbox = w.inbox.without turn.signal) ∧
        (∀ turn, m.turn? policy (.work w.target) = some turn →
          m.step policy sinks (.work w.target) =
            some (workOn sinks m w turn.signal turn.inbox)) ∧
        ∀ signal, w.inbox.Ready false w.session.hearsEvents signal →
          (m.turn? policy (.work w.target)).isSome = true) ∧
      ∀ later m' more, m.run policy sinks later = some (m', more) →
        ∀ (i : Nat) item signal, w.inbox.resources[i]? = some item →
          (turnsOf policy sinks w.id m later)[i]? = some signal →
            signal = .cancel ∨ signal = .input (.resource item) := by
  have hledger := run_ledger hrun
  refine ⟨?_, ?_, ?_, ?_⟩
  · rintro call label (rfl | rfl) hfresh
    · exact step_tells (.unsubscribe call w.target) hledger hw (by simp) hfresh
    · exact step_tells (.shutdown call) hledger hw (by simp) hfresh
  · intro hcancelled later m' more hlater
    exact run_halts hledger hw hstreams (doomed_of_isCancelled hledger hcancelled) hlater
  · intro hgoing
    have hturns : ∀ turn, m.turn? policy (.work w.target) = some turn ↔
        turn.worker = w ∧ w.inbox.GoesFirst false w.session.hearsEvents turn.signal ∧
          turn.inbox = w.inbox.without turn.signal := by
      intro turn
      rw [turn?_iff_goesFirst hledger hw hstreams, hgoing]
    refine ⟨hturns, fun turn hturn => ?_, fun signal hready => ?_⟩
    · rw [step_of_turn? hturn, ((hturns turn).mp hturn).1]
    · obtain ⟨first, hfirst⟩ := Inbox.exists_goesFirst hready
      rw [(hturns ⟨w, first, w.inbox.without first⟩).mpr ⟨rfl, hfirst, rfl⟩]
      rfl
  · intro later m' more hlater i item signal hitem hsignal
    exact run_takes_changes_first hledger hw hlater hitem hsignal

/-- A deletion, an event and a tick wait for a worker at once.  It turns to the deletion, unless it
is told to stop before: then it turns to nothing, also if another change comes in between. -/
theorem cancellation_wins_over_all_kinds :
    ∃ m occurred w told said v,
      (Manager.start default () (some 0) (Quota.new 10 100)).run Policy.standard .accepting
        (Label.setup 1 ⟨"ann", ⟨"ns", "a"⟩, none⟩ .blank [] ++
          [ .arrive ⟨"ns", "a"⟩ .tick, .arrive ⟨"ns", "a"⟩ (.event .ended),
            .arrive ⟨"ns", "a"⟩ (.resource (.change ⟨.blank, .deleted⟩)) ]) =
        some (m, occurred) ∧
      w ∈ m.workers ∧
      (∃ turn item, m.turn? Policy.standard (.work w.target) = some turn ∧
        turn.signal = .input (.resource item)) ∧
      (Manager.start default () (some 0) (Quota.new 10 100)).run Policy.standard .accepting
        (Label.setup 1 ⟨"ann", ⟨"ns", "a"⟩, none⟩ .blank [] ++
          [ .arrive ⟨"ns", "a"⟩ .tick, .arrive ⟨"ns", "a"⟩ (.event .ended),
            .arrive ⟨"ns", "a"⟩ (.resource (.change ⟨.blank, .deleted⟩)),
            .unsubscribe 2 ⟨"ns", "a"⟩,
            .arrive ⟨"ns", "a"⟩ (.resource (.change ⟨.blank, .modified⟩)) ]) =
        some (told, said) ∧
      v ∈ told.workers ∧ v.inbox.resources.length = 2 ∧
      ∀ later m' more, told.run Policy.standard .accepting later = some (m', more) →
        Halts Policy.standard .accepting told v later m' more := by
  let waits : List Label :=
    Label.setup 1 ⟨"ann", ⟨"ns", "a"⟩, none⟩ .blank [] ++
      [ .arrive ⟨"ns", "a"⟩ .tick, .arrive ⟨"ns", "a"⟩ (.event .ended),
        .arrive ⟨"ns", "a"⟩ (.resource (.change ⟨.blank, .deleted⟩)) ]
  let stops : List Label :=
    Label.setup 1 ⟨"ann", ⟨"ns", "a"⟩, none⟩ .blank [] ++
      [ .arrive ⟨"ns", "a"⟩ .tick, .arrive ⟨"ns", "a"⟩ (.event .ended),
        .arrive ⟨"ns", "a"⟩ (.resource (.change ⟨.blank, .deleted⟩)),
        .unsubscribe 2 ⟨"ns", "a"⟩,
        .arrive ⟨"ns", "a"⟩ (.resource (.change ⟨.blank, .modified⟩)) ]
  let read (r : Stepped Unit) : List (Bool × Bool × Nat) :=
    r.1.workers.map fun w =>
      (w.streams Policy.standard, r.1.isCancelled w.id, w.inbox.resources.length)
  have hwaits : ((Manager.start default () (some 0) (Quota.new 10 100)).run Policy.standard
      .accepting waits).map read = some [(true, false, 1)] := by
    decide +kernel
  have hstops : ((Manager.start default () (some 0) (Quota.new 10 100)).run Policy.standard
      .accepting stops).map read = some [(true, true, 2)] := by
    decide +kernel
  obtain ⟨⟨m, occurred⟩, hrun, hread⟩ := Option.map_eq_some_iff.mp hwaits
  obtain ⟨⟨told, said⟩, htold, hread'⟩ := Option.map_eq_some_iff.mp hstops
  obtain ⟨w, hw, hof⟩ := List.mem_map.mp (hread ▸ List.mem_singleton_self _)
  obtain ⟨v, hv, hof'⟩ := List.mem_map.mp (hread' ▸ List.mem_singleton_self _)
  simp only [Prod.mk.injEq] at hof hof'
  obtain ⟨-, -, hgoing, -⟩ := cancellation_wins hrun hw hof.1
  obtain ⟨-, hhalts, -, -⟩ := cancellation_wins htold hv hof'.1
  obtain ⟨item, hitem⟩ := List.length_eq_one_iff.mp hof.2.2
  have hfirst : w.inbox.resources.head? = some item := by
    rw [hitem]
    rfl
  obtain ⟨hturns, -, hready⟩ := hgoing hof.2.1
  obtain ⟨turn, hturn⟩ := Option.isSome_iff_exists.mp (hready _ (.resource hfirst))
  have hgoes := ((hturns turn).mp hturn).2.1
  have hsignal : turn.signal = .input (.resource item) := by
    refine (hgoes.eq_of_resource hfirst).resolve_left fun hcancel => ?_
    rw [hcancel] at hgoes
    cases hgoes.ready with
    | cancel told => cases told
  exact ⟨m, occurred, w, told, said, v, hrun, hw, ⟨turn, item, hturn, hsignal⟩, htold, hv,
    hof'.2.2, hhalts hof'.2.1⟩

end Manager
end ProvisionWatch

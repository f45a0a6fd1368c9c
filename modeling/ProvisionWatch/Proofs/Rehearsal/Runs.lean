import Mathlib.Data.Option.Basic
import Mathlib.Logic.Relation
import ProvisionWatch.Proofs.Manager.Performing
import ProvisionWatch.Proofs.Manager.SinkAnswers
import ProvisionWatch.Rehearsal.Actions

/-!
# Rehearsals are runs

Whatever is done in a rehearsal, three things can happen to it.  The manager
takes a step, and what occurs is counted and noted.  Sinks are bound, closed or
emptied.  Or something around the manager changes: the cluster, the time, what
is due.  So a rehearsal never does anything with a manager but let it take its
steps, and all that holds of the runs of a manager holds in a rehearsal.

Main results:

- Theorem `goes_act`: every action of a rehearsal is made of such moves.
- Theorem `Goes.run`: a rehearsal is a run of its manager, and has counted and
  noted what occurred.
- Theorem `Goes.sinksFit`: no sink ever holds more than it can.
- Theorem `stepAll_runs`: all of it, for whatever is done from the beginning.
-/

namespace ProvisionWatch

namespace Rehearsal

variable {r r' r'' : Rehearsal}

/-! ## Moves -/

/-- The results that are noted when something occurs. -/
def returnedIn (occurred : List Occurrence) : List (Nat × CallResult) :=
  occurred.filterMap fun
    | .returned call result => some (call, result)
    | _ => none

/-- No sink holds more than it can. -/
def SinksFit (queues : List SinkQueue) : Prop :=
  ∀ q ∈ queues, q.entries.length ≤ q.capacity

/-- One thing that happens to a rehearsal. -/
inductive Moves (r r' : Rehearsal) : Prop where
  /-- The manager takes a step. -/
  | takes (label : Label) (occurred : List Occurrence)
      (step : r.manager.step r.policy sinkQueues label = some (r'.manager, occurred))
      (policy : r'.policy = r.policy) (metrics : r'.metrics = r.metrics.recordAll occurred)
      (results : r'.results = (returnedIn occurred).reverse ++ r.results)
  /-- Sinks are bound, closed or emptied. -/
  | sinks (queues : List SinkQueue) (fit : SinksFit r.manager.sinks → SinksFit queues)
      (manager : r'.manager = { r.manager with sinks := queues }) (policy : r'.policy = r.policy)
      (metrics : r'.metrics = r.metrics) (results : r'.results = r.results)
  /-- Something around the manager changes. -/
  | around (manager : r'.manager = r.manager) (policy : r'.policy = r.policy)
      (metrics : r'.metrics = r.metrics) (results : r'.results = r.results)

/-- A rehearsal goes on in moves. -/
def Goes : Rehearsal → Rehearsal → Prop :=
  Relation.ReflTransGen Moves

theorem Goes.refl (r : Rehearsal) : Goes r r :=
  Relation.ReflTransGen.refl

theorem Goes.trans (h : Goes r r') (h' : Goes r' r'') : Goes r r'' :=
  Relation.ReflTransGen.trans h h'

theorem Moves.goes (h : Moves r r') : Goes r r' :=
  Relation.ReflTransGen.single h

/-- Changes around the manager come before something else. -/
theorem Goes.around (h : Goes r' r'') (manager : r'.manager = r.manager := by rfl)
    (policy : r'.policy = r.policy := by rfl) (metrics : r'.metrics = r.metrics := by rfl)
    (results : r'.results = r.results := by rfl) : Goes r r'' :=
  (Moves.around manager policy metrics results).goes.trans h

/-! ## Steps of the manager -/

/-- What is noted of an occurrence. -/
theorem note_eq (call : Option Nat) (r : Rehearsal) (o : Occurrence) :
    (note call r o).manager = r.manager ∧ (note call r o).policy = r.policy ∧
      (note call r o).metrics = r.metrics ∧
        (note call r o).results = returnedIn [o] ++ r.results := by
  cases o with
  | asked question => cases question <;> exact ⟨rfl, rfl, rfl, rfl⟩
  | returned | opened | delivered | watchError | stalled | closed => exact ⟨rfl, rfl, rfl, rfl⟩

theorem foldl_note_eq (call : Option Nat) (r : Rehearsal) (occurred : List Occurrence) :
    (occurred.foldl (note call) r).manager = r.manager ∧
      (occurred.foldl (note call) r).policy = r.policy ∧
      (occurred.foldl (note call) r).metrics = r.metrics ∧
        (occurred.foldl (note call) r).results =
          (returnedIn occurred).reverse ++ r.results := by
  induction occurred generalizing r with
  | nil => exact ⟨rfl, rfl, rfl, rfl⟩
  | cons o rest ih =>
      obtain ⟨hmanager, hpolicy, hmetrics, hresults⟩ := ih (note call r o)
      obtain ⟨hmanager', hpolicy', hmetrics', hresults'⟩ := note_eq call r o
      refine ⟨hmanager.trans hmanager', hpolicy.trans hpolicy', hmetrics.trans hmetrics', ?_⟩
      rw [List.foldl_cons, hresults, hresults']
      have hsplit : returnedIn (o :: rest) = returnedIn [o] ++ returnedIn rest :=
        List.filterMap_append (l := [o])
      have hfew : (returnedIn [o]).reverse = returnedIn [o] := by
        cases o <;> rfl
      rw [hsplit, List.reverse_append, hfew, List.append_assoc]

/-- A step that is possible takes place. -/
theorem goes_apply (r : Rehearsal) (label : Label) : Goes r (r.apply label) := by
  unfold apply
  split
  · exact .refl r
  · rename_i m occurred hstep
    obtain ⟨hmanager, hpolicy, hmetrics, hresults⟩ := foldl_note_eq label.call?
      { r with manager := m, metrics := r.metrics.recordAll occurred } occurred
    exact (Moves.takes label occurred (hstep.trans (by rw [hmanager])) hpolicy hmetrics
      hresults).goes

theorem goes_bring (r : Rehearsal) (target : Target) (input : Input) :
    Goes r (r.bring target input) :=
  (goes_apply _ _).around

/-! ## Going on by itself -/

theorem goes_answerFetch (r : Rehearsal) (call : Nat) : Goes r (r.answerFetch call) := by
  unfold answerFetch
  split
  · exact (goes_apply _ _).around
  · exact .refl r

theorem goes_answerQuestion (r : Rehearsal) (call : Nat) (question : Question) :
    Goes r (r.answerQuestion call question) := by
  cases question with
  | fetch => exact goes_answerFetch r call
  | watch | watchEvents | listEvents => exact (goes_apply _ _).around

theorem goes_ring (r : Rehearsal) (alarm : Alarm) : Goes r (r.ring alarm) := by
  cases alarm with
  | answer due call => exact (goes_answerFetch _ call).around
  | tick due target => exact (goes_bring _ target .tick).around

theorem goes_ringNext? (h : r.ringNext? = some r') : Goes r r' := by
  unfold ringNext? at h
  split at h
  · split at h
    · obtain rfl := Option.some.inj h
      exact goes_ring r _
    · cases h
  · cases h

theorem goes_answerNext? (h : r.answerNext? = some r') : Goes r r' := by
  unfold answerNext? at h
  split at h
  · cases h
  · obtain rfl := Option.some.inj h
    exact (goes_answerQuestion _ _ _).around

theorem goes_workNext? (h : r.workNext? = some r') : Goes r r' := by
  obtain ⟨w, -, rfl⟩ := Option.map_eq_some_iff.mp h
  exact goes_apply r _

theorem goes_resumeNext? (h : r.resumeNext? = some r') : Goes r r' := by
  obtain ⟨c, -, rfl⟩ := Option.map_eq_some_iff.mp h
  exact goes_apply r _

theorem goes_goOn? (h : r.goOn? = some r') : Goes r r' := by
  simp only [goOn?, Option.orElse_eq_some] at h
  rcases h with h | ⟨-, h | ⟨-, h | ⟨-, h⟩⟩⟩
  · exact goes_answerNext? h
  · exact goes_workNext? h
  · exact goes_resumeNext? h
  · exact goes_ringNext? h

theorem goes_goOnFor (n : Nat) (r : Rehearsal) : Goes r (goOnFor n r) := by
  induction n generalizing r with
  | zero => exact .refl r
  | succ n ih =>
      rw [goOnFor]
      split
      · rename_i next hnext
        exact (goes_goOn? hnext).trans (ih next)
      · exact .refl r

theorem goes_settle (r : Rehearsal) : Goes r r.settle :=
  goes_goOnFor r.patience r

theorem goes_jump (r : Rehearsal) (later : Nat) : Goes r (r.jump later) :=
  (goes_settle _).around

theorem goes_awaitFor (call n : Nat) (r : Rehearsal) : Goes r (awaitFor call n r) := by
  induction n generalizing r with
  | zero => exact .refl r
  | succ n ih =>
      rw [awaitFor]
      split
      · exact .refl r
      · split
        · exact (goes_jump r _).trans (ih _)
        · exact .refl r

theorem goes_await (r : Rehearsal) (call : Nat) : Goes r (r.await call) :=
  (goes_settle r).trans (goes_awaitFor call _ _)

/-! ## Happenings -/

theorem goes_arriveAll (r : Rehearsal) (item : EventItem) : Goes r (r.arriveAll item) := by
  have hall : ∀ (workers : List Worker) (r : Rehearsal),
      Goes r (workers.foldl (fun r w => r.bring w.target (.event item)) r) := by
    intro workers
    induction workers with
    | nil => exact Goes.refl
    | cons w rest ih => exact fun r => (goes_bring r w.target _).trans (ih _)
  exact hall _ r

theorem goes_moveClock (r : Rehearsal) (span : Span) : Goes r (r.moveClock span).1 := by
  let moved : Rehearsal := { r with clock := (r.clock.advance span).1 }
  exact (goes_apply moved (.setClock moved.clock.now)).around

theorem goes_happen (r : Rehearsal) (h : Happening) : Goes r (r.happen h).1 := by
  cases h with
  | change target c => exact goes_bring r _ _
  | changeError target e => exact goes_bring r _ _
  | changesEnd target => exact goes_bring r _ _
  | event | eventError | eventsEnd => exact goes_arriveAll r _
  | clockMoves span => exact goes_moveClock r span

theorem goes_happenAll (r : Rehearsal) (happenings : List Happening) :
    Goes r (r.happenAll happenings).1 := by
  induction happenings generalizing r with
  | nil => exact .refl r
  | cons h rest ih =>
      have hfirst := goes_happen r h
      unfold happenAll
      split
      · rename_i heq
        rwa [heq] at hfirst
      · rename_i heq
        rw [heq] at hfirst
        exact hfirst.trans (ih _)

/-! ## Sinks -/

theorem goes_bindSink (r : Rehearsal) : Goes r r.bindSink := by
  let more : Rehearsal := { r with manager :=
    { r.manager with sinks := r.manager.sinks ++ [.new r.sinkCapacity] } }
  have hmore : Goes r more := by
    refine Moves.goes (.sinks _ (fun hfit => ?_) rfl rfl rfl rfl)
    refine List.forall_mem_append.mpr ⟨hfit, fun q hq => ?_⟩
    obtain rfl := List.mem_singleton.mp hq
    exact Nat.zero_le _
  exact hmore.trans (goes_apply more (.bind r.manager.sinks.length))

theorem goes_closeSink (r : Rehearsal) (sink : Nat) : Goes r (r.closeSink sink) := by
  refine Moves.goes (.sinks _ (fun hfit q hq => ?_) rfl rfl rfl rfl)
  obtain ⟨n, hn⟩ := List.mem_iff_getElem?.mp hq
  rw [List.getElem?_modify] at hn
  obtain ⟨old, hold, rfl⟩ := Option.map_eq_some_iff.mp hn
  have hroom := hfit old (List.mem_iff_getElem?.mpr ⟨n, hold⟩)
  split
  · exact Nat.zero_le _
  · exact hroom

theorem goes_collect (r : Rehearsal) : Goes r r.collect.1 := by
  refine Moves.goes (.sinks _ ?_ rfl rfl rfl rfl)
  intro _ q hq
  obtain ⟨q, -, rfl⟩ := List.mem_map.mp hq
  exact Nat.zero_le _

/-! ## Actions -/

theorem goes_beginCall (r : Rehearsal) (label : Nat → Label) : Goes r (r.beginCall label).1 := by
  let numbered : Rehearsal := { r with nextCall := r.nextCall + 1 }
  exact (goes_apply numbered (label r.nextCall)).around

theorem goes_callAndWait (r : Rehearsal) (label : Nat → Label) :
    Goes r (r.callAndWait label).1 :=
  (goes_beginCall r label).trans (goes_await _ _)

theorem goes_abandonCall (r : Rehearsal) (call : Nat) : Goes r (r.abandonCall call) := by
  unfold abandonCall
  split
  · exact (goes_apply _ _).around
  · exact .refl r

theorem goes_passTicks (n : Nat) (r : Rehearsal) : Goes r (r.passTicks n) := by
  induction n generalizing r with
  | zero => exact .refl r
  | succ n ih => exact (goes_jump r _).trans (ih _)

/-- Every action is made of moves. -/
theorem goes_act (r : Rehearsal) (action : Action) : Goes r (r.act action).1 := by
  have hsame : ∀ r' : Rehearsal, r'.manager = r.manager → r'.policy = r.policy →
      r'.metrics = r.metrics → r'.results = r.results → Goes r r' :=
    fun r' manager policy metrics results =>
      (Moves.around manager policy metrics results).goes
  cases action with
  | insert | remove | list | failFetch | failWatch | failList | failEventWatch | delayFetches
  | hold | drain | isSubscribed | heldBy | watches | poll => exact hsame _ rfl rfl rfl rfl
  | happen happenings => exact (goes_happenAll r happenings).trans (goes_settle _)
  | bind => exact goes_bindSink r
  | closeSink sink => exact goes_closeSink r sink
  | subscribe request => exact goes_callAndWait r fun call => .subscribe call request
  | subscribeText caller raw =>
      rw [act]
      split
      · exact .refl r
      · rename_i request _
        exact goes_callAndWait r fun call =>
          .subscribe call ⟨caller, request.target, request.timeout⟩
  | unsubscribe target => exact goes_callAndWait r fun call => .unsubscribe call target
  | shutdown => exact goes_callAndWait r .shutdown
  | readState target => exact goes_callAndWait r fun call => .readState call target
  | tick times => exact goes_passTicks times r
  | begin name request =>
      exact (goes_beginCall r fun call => .subscribe call request).trans (goes_settle _).around
  | pass duration => exact goes_jump r _
  | abandon name =>
      show Goes r (((r.named.lookup name).map r.abandonCall).getD r).settle
      cases r.named.lookup name with
      | none => exact goes_settle r
      | some call => exact (goes_abandonCall r call).trans (goes_settle _)

/-- And so is an action together with its report. -/
theorem goes_step (r : Rehearsal) (action : Action) : Goes r (r.step action).1 := by
  have hact := goes_act r action
  unfold step
  dsimp only
  split
  · exact hact
  · exact hact.trans (goes_collect _)

/-- Do several things in order. -/
def stepAll (r : Rehearsal) (actions : List Action) : Rehearsal :=
  actions.foldl (fun r action => (r.step action).1) r

theorem goes_stepAll (r : Rehearsal) (actions : List Action) : Goes r (r.stepAll actions) := by
  induction actions generalizing r with
  | nil => exact .refl r
  | cons action rest ih => exact (goes_step r action).trans (ih _)

/-! ## What follows -/

/-- A rehearsal is a run of its manager, where the sinks are left aside.  What occurred in the run,
whatever the sinks answered, is what was counted, and its results are those that were noted. -/
structure Runs (r r' : Rehearsal) (labels : List Label) (occurred : List Occurrence) : Prop where
  policy : r'.policy = r.policy
  run : r.manager.withoutSinks.run r.policy .accepting labels =
    some (r'.manager.withoutSinks, occurred.map Occurrence.accepted)
  metrics : r'.metrics = r.metrics.recordAll occurred
  results : r'.results = (returnedIn occurred).reverse ++ r.results

theorem Runs.trans {labels later : List Label} {occurred more : List Occurrence}
    (h : Runs r r' labels occurred) (h' : Runs r' r'' later more) :
    Runs r r'' (labels ++ later) (occurred ++ more) where
  policy := h'.policy.trans h.policy
  run := by
    have hlater := h'.run
    rw [h.policy] at hlater
    rw [List.map_append]
    exact Manager.run_append h.run hlater
  metrics := by
    rw [h'.metrics, h.metrics, Metrics.recordAll, Metrics.recordAll, Metrics.recordAll,
      List.foldl_append]
  results := by
    rw [h'.results, h.results, returnedIn, returnedIn, returnedIn, List.filterMap_append,
      List.reverse_append, List.append_assoc]

theorem Moves.runs (h : Moves r r') : ∃ labels occurred, Runs r r' labels occurred := by
  cases h with
  | takes label occurred step policy metrics results =>
      have hwithout := congrArg (Option.map Manager.Stepped.withoutSinks) step
      rw [Manager.step_withoutSinks] at hwithout
      refine ⟨[label], occurred, policy, ?_, metrics, results⟩
      exact Manager.run_cons_eq_some_iff.mpr
        ⟨_, _, hwithout, rfl, Prod.ext rfl (List.append_nil _)⟩
  | sinks queues fit manager policy metrics results =>
      refine ⟨[], [], policy, ?_, metrics, results⟩
      rw [manager]
      rfl
  | around manager policy metrics results =>
      refine ⟨[], [], policy, ?_, metrics, results⟩
      rw [manager]
      rfl

/-- However a rehearsal goes on, it is a run of its manager. -/
theorem Goes.run (h : Goes r r') : ∃ labels occurred, Runs r r' labels occurred := by
  induction h with
  | refl => exact ⟨[], [], rfl, rfl, rfl, rfl⟩
  | tail _ hmoves ih =>
      obtain ⟨labels, occurred, hruns⟩ := ih
      obtain ⟨later, more, hlater⟩ := hmoves.runs
      exact ⟨_, _, hruns.trans hlater⟩

/-- A sink that is handed an update comes to hold no more than it can. -/
theorem sinksFit_offer {queues : List SinkQueue} (hfit : SinksFit queues) (n : Nat)
    (target : Target) (u : Update) : SinksFit (sinkQueues.offer queues n target u).1 := by
  unfold sinkQueues
  dsimp only
  split
  · rename_i q hq
    intro q' hq'
    rcases List.mem_or_eq_of_mem_set hq' with hmem | rfl
    · exact hfit q' hmem
    · exact q.length_offer_le target u (hfit q (List.mem_of_getElem? hq))
  · exact hfit

/-- Handing over updates leaves no sink with more than it can hold. -/
theorem sinksFit_performAll (sink : Nat) (target : Target) {queues : List SinkQueue}
    (hfit : SinksFit queues) (effects : List Effect) :
    SinksFit (Manager.performAll sinkQueues sink target queues effects).1 := by
  induction effects generalizing queues with
  | nil => exact hfit
  | cons e rest ih =>
      refine ih ?_
      cases e with
      | delivery d =>
          cases d with
          | offered u =>
              have hoffer := sinksFit_offer hfit sink target u
              dsimp only
              split <;> rename_i heq <;> rwa [heq] at hoffer
          | coalesced u => exact hfit
      | watchError | stall => exact hfit

/-- However a rehearsal goes on, no sink comes to hold more than it can. -/
theorem Goes.sinksFit (h : Goes r r') (hfit : SinksFit r.manager.sinks) :
    SinksFit r'.manager.sinks := by
  induction h with
  | refl => exact hfit
  | tail _ hmoves ih =>
      cases hmoves with
      | takes label occurred step =>
          obtain ⟨sink, target, after, hperforms⟩ := Manager.step_performs step
          rw [hperforms.world]
          exact sinksFit_performAll sink target ih _
      | sinks queues fit manager =>
          rw [manager]
          exact fit ih
      | around manager =>
          rw [manager]
          exact ih

/-- Whatever is done in a rehearsal, it is a run of a manager that begins with nothing, what is
counted and noted is what occurred in it, and no sink ever holds more than it can. -/
theorem stepAll_runs (policy : Policy) (quota : Quota) (now : Instant) (sinkCapacity : Nat)
    (actions : List Action) :
    ∃ labels occurred,
      (Manager.start now () none quota).run policy .accepting labels =
        some (((start policy quota now sinkCapacity).stepAll actions).manager.withoutSinks,
          occurred.map Occurrence.accepted) ∧
      ((start policy quota now sinkCapacity).stepAll actions).metrics =
        Metrics.zero.recordAll occurred ∧
      ((start policy quota now sinkCapacity).stepAll actions).results =
        (returnedIn occurred).reverse ∧
      SinksFit ((start policy quota now sinkCapacity).stepAll actions).manager.sinks := by
  have hgoes := goes_stepAll (start policy quota now sinkCapacity) actions
  obtain ⟨labels, occurred, hruns⟩ := hgoes.run
  exact ⟨labels, occurred, hruns.run, hruns.metrics,
    hruns.results.trans (List.append_nil _), hgoes.sinksFit (List.forall_mem_nil _)⟩

end Rehearsal
end ProvisionWatch

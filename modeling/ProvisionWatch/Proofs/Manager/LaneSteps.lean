import ProvisionWatch.Proofs.Manager.LaneChanges

/-!
# The steps of one target

What a manager of many targets does for one of them is what the lane of that
target does by itself, as long as there is room; what it does for the others the
lane does not notice.

Main results:

- Theorem `step_lane`: a step that concerns a target is a step of its lane.
- Theorem `lane_of_not_concerns`: other steps leave the lane as it is, and nothing
  occurs for the target in them.
-/

namespace ProvisionWatch

namespace Manager

variable {policy : Policy} {perCallerLimit globalLimit : Nat} {target : Target} {calls : List Nat}
variable {m : Manager Unit} {label : Label} {call : Nat}

/-! ## What occurs for a target -/

/-- An effect of a session takes place for its target. -/
@[simp]
theorem concerns_perform {σ : Type} (sinks : SinkInterface σ) (sink : Nat) (place : Target)
    (world : σ) (e : Effect) :
    (perform sinks sink place world e).2.concerns target calls = (place == target) := by
  unfold perform
  split
  · split <;> rfl
  · rfl
  · rfl
  · rfl

theorem concerns_performAll {σ : Type} (sinks : SinkInterface σ) (sink : Nat) (place : Target)
    (world : σ) (effects : List Effect) :
    ∀ o ∈ (performAll sinks sink place world effects).2,
      o.concerns target calls = (place == target) :=
  forall_mem_performAll (concerns_perform sinks sink place) world effects

/-- What a session of the target says is all for the target. -/
@[simp]
theorem filter_performAll {σ : Type} (sinks : SinkInterface σ) (sink : Nat) (world : σ)
    (effects : List Effect) :
    (performAll sinks sink target world effects).2.filter (Occurrence.concerns target calls) =
      (performAll sinks sink target world effects).2 := by
  refine List.filter_eq_self.mpr fun o ho => ?_
  rw [concerns_performAll sinks sink target world effects o ho]
  exact beq_self_eq_true target

/-- What a session of another target says is not. -/
theorem filter_performAll_of_ne {σ : Type} (sinks : SinkInterface σ) (sink : Nat) {place : Target}
    (hother : place ≠ target) (world : σ) (effects : List Effect) :
    (performAll sinks sink place world effects).2.filter (Occurrence.concerns target calls) =
      [] := by
  refine List.filter_eq_nil_iff.mpr fun o ho => ?_
  rw [concerns_performAll sinks sink place world effects o ho]
  simpa using hother

/-- Whoever looks for a free target in a step finds room. -/
def Roomy {σ : Type} (policy : Policy) (m : Manager σ) (label : Label) : Prop :=
  ∀ call request sink, Looks policy m label call request sink →
    m.lookup? request.target = none → ∃ quota, m.quota.acquire request.caller = .ok quota

/-! ## Calls about the target -/

section OwnCalls

variable (hapart : Apart target calls m) (hledger : Ledger perCallerLimit globalLimit m)
variable (hmem : call ∈ calls)

include hmem

theorem lane_answerCall (m : Manager Unit) (result : CallResult) (before : List Occurrence) :
    Stepped.lane target calls (m.answerCall call result before) =
      (m.lane target calls).answerCall call result
        (before.filter (Occurrence.concerns target calls)) := by
  have hreturned : Occurrence.concerns target calls (.returned call result) = true :=
    List.contains_iff_mem.mpr hmem
  rw [Stepped.lane, answerCall, lane_dropCall, List.filter_append,
    List.filter_cons_of_pos hreturned]
  rfl

theorem lane_beginStop (m : Manager Unit) :
    Stepped.lane target calls (m.beginStop call fun e => e.target == target) =
      (m.lane target calls).beginStop call := by
  have hcancelled : (m.cancelWhere fun e => e.target == target).lane target calls =
      (m.lane target calls).cancel :=
    m.lane_cancelWhere fun e _ htarget => beq_iff_eq.mpr htarget
  unfold beginStop Lane.beginStop
  dsimp only
  cases hfind : m.lookup? target with
  | none =>
      have hnone : (m.registry.filter fun e => e.target == target) = [] :=
        List.filter_eq_nil_iff.mpr (List.find?_eq_none.mp hfind)
      rw [hnone, entry_lane_of_free hfind]
      exact lane_answerCall hmem m _ []
  | some e =>
      obtain ⟨hentry, htarget⟩ := mem_of_lookup? hfind
      have hfound : e ∈ m.registry.filter fun e => e.target == target :=
        List.mem_filter.mpr ⟨hentry, beq_iff_eq.mpr htarget⟩
      have hids : ((m.registry.filter fun e => e.target == target).map Entry.id).isEmpty =
          false := by
        rw [List.isEmpty_eq_false_iff]
        exact List.ne_nil_of_mem (List.mem_map_of_mem hfound)
      have hwaits : ((m.registry.filter fun e => e.target == target).map Entry.id).any
          m.isRegistered = true :=
        List.any_eq_true.mpr ⟨e.id, List.mem_map_of_mem hfound,
          List.any_eq_true.mpr ⟨e, hentry, beq_self_eq_true _⟩⟩
      rw [hids, entry_lane hfind]
      dsimp only
      rw [if_neg Bool.false_ne_true, Stepped.lane, lane_keepCall _ hmem, hcancelled, laneCall,
        isRegistered_cancelWhere, hwaits]
      rfl

theorem lane_beginRead (m : Manager Unit) (place : Target) :
    Stepped.lane target calls (m.beginRead policy call place) =
      (m.lane target calls).beginRead policy call place := by
  unfold beginRead Lane.beginRead
  cases place.check with
  | some e => exact lane_answerCall hmem m _ []
  | none =>
      cases policy.allowList.authorize place.ns with
      | some e => exact lane_answerCall hmem m _ []
      | none =>
          dsimp only
          rw [Stepped.lane, lane_keepCall m hmem]
          rfl

theorem lane_advance (setup : Setup) (stage : Stage) (question : Question) :
    Stepped.lane target calls (m.advance call setup stage question) =
      (m.lane target calls).advance call setup.unnumbered stage := by
  rw [Stepped.lane, advance, lane_keepCall m hmem]
  rfl

theorem lane_takeEventsWatched (answer : Except WatchError Unit) (p : PendingCall) :
    (m.takeEventsWatched call answer p).map (Stepped.lane target calls) =
      (m.lane target calls).takeEventsWatched call answer (m.laneCall p) := by
  cases p with
  | settingUp setup =>
      unfold takeEventsWatched Lane.takeEventsWatched laneCall
      dsimp only
      rw [show setup.unnumbered.stage = setup.stage from rfl]
      cases setup.stage with
      | watchingEvents d => exact congrArg some (lane_advance hmem setup _ _)
      | fetching | watching | listing => rfl
  | waiting | stopping | reading => rfl

include hapart hledger

theorem lane_attempt {request : SubscribeRequest} (htarget : request.target = target)
    (hroom : m.lookup? target = none → ∃ quota, m.quota.acquire request.caller = .ok quota)
    (sink : Nat) :
    Stepped.lane target calls (m.attempt call request sink) =
      (m.lane target calls).attempt call request sink := by
  unfold attempt
  rw [htarget]
  cases hfind : m.lookup? target with
  | some e =>
      rw [Lane.attempt, entry_lane hfind]
      dsimp only
      split
      · exact lane_answerCall hmem m _ []
      · rename_i hannounced
        have hregistered : m.isRegistered e.id = true :=
          List.any_eq_true.mpr ⟨e, (mem_of_lookup? hfind).1, beq_self_eq_true _⟩
        rw [Stepped.lane, lane_keepCall m hmem, laneCall, hregistered,
          Bool.eq_false_iff.mpr hannounced]
        rfl
  | none =>
      obtain ⟨quota, hquota⟩ := hroom hfind
      rw [Lane.attempt, entry_lane_of_free hfind, hquota]
      dsimp only
      rw [Stepped.lane, lane_keepCall _ hmem, lane_register hapart hledger hfind]
      rfl

theorem lane_beginSubscribe {request : SubscribeRequest} (htarget : request.target = target)
    (hfresh : m.call? call = none) (hroom : m.Roomy policy (.subscribe call request)) :
    Stepped.lane target calls (m.beginSubscribe policy call request) =
      (m.lane target calls).beginSubscribe policy call request := by
  unfold beginSubscribe Lane.beginSubscribe
  rw [show (m.lane target calls).bound = m.bound from rfl]
  cases hrefusal : refusal? policy request with
  | some e => exact lane_answerCall hmem m _ []
  | none =>
      cases hbound : m.bound with
      | none => exact lane_answerCall hmem m _ []
      | some sink =>
          have hlooks : Looks policy m (.subscribe call request) call request sink :=
            .anew hfresh hrefusal hbound
          have hfree := hroom call request sink hlooks
          rw [htarget] at hfree
          exact lane_attempt hapart hledger hmem htarget hfree sink

/-! ## Setups of the target -/

/-- A setup of the target holds its entry. -/
theorem lookup?_of_settingUp {setup : Setup}
    (hpending : m.call? call = some (.settingUp setup)) :
    setup.request.target = target ∧ ∃ e, m.lookup? target = some e ∧ e.id = setup.id := by
  have htarget : setup.request.target = target := hapart.own call hmem _ hpending
  have hsetup := mem_setups hledger.distinct (setupOf?_of_call? hpending)
  refine ⟨htarget, ?_⟩
  rw [← htarget]
  exact hledger.lookup?_of_slot (List.mem_append_left _ (List.mem_map_of_mem hsetup))

theorem lane_failSetup {setup : Setup}
    (hpending : m.call? call = some (.settingUp setup)) (result : CallResult) :
    Stepped.lane target calls (m.failSetup call setup result) =
      (m.lane target calls).failSetup call result := by
  obtain ⟨-, e, he, hid⟩ := lookup?_of_settingUp hapart hledger hmem hpending
  rw [failSetup, lane_answerCall hmem, lane_unregister hapart hledger he hid]
  rfl

theorem lane_takeFetched {p : PendingCall} (hpending : m.call? call = some p)
    (answer : Except WatchError (Option Deployment)) :
    (m.takeFetched call answer p).map (Stepped.lane target calls) =
      (m.lane target calls).takeFetched call answer (m.laneCall p) := by
  cases p with
  | reading place => exact congrArg some (lane_answerCall hmem m _ [])
  | settingUp setup =>
      have hfails : ∀ result, Stepped.lane target calls (m.failSetup call setup result) =
          (m.lane target calls).failSetup call result :=
        lane_failSetup hapart hledger hmem hpending
      unfold takeFetched Lane.takeFetched laneCall
      dsimp only
      rw [show setup.unnumbered.stage = setup.stage from rfl]
      cases setup.stage with
      | fetching =>
          cases answer with
          | error e => exact congrArg some (hfails _)
          | ok found =>
              cases found with
              | none => exact congrArg some (hfails _)
              | some d => exact congrArg some (lane_advance hmem setup _ _)
      | watching | watchingEvents | listing => rfl
  | waiting | stopping => rfl

theorem lane_takeWatched {p : PendingCall} (hpending : m.call? call = some p)
    (answer : Except WatchError Unit) :
    (m.takeWatched call answer p).map (Stepped.lane target calls) =
      (m.lane target calls).takeWatched call answer (m.laneCall p) := by
  cases p with
  | settingUp setup =>
      unfold takeWatched Lane.takeWatched laneCall
      dsimp only
      rw [show setup.unnumbered.stage = setup.stage from rfl]
      cases setup.stage with
      | watching d =>
          cases answer with
          | error e => exact congrArg some (lane_failSetup hapart hledger hmem hpending _)
          | ok => exact congrArg some (lane_advance hmem setup _ _)
      | fetching | watchingEvents | listing => rfl
  | waiting | stopping | reading => rfl

theorem lane_finishSetup {setup : Setup}
    (hpending : m.call? call = some (.settingUp setup)) (d : Deployment) (hearsEvents : Bool)
    (listed : List Event) :
    Stepped.lane target calls
        (m.finishSetup policy .accepting call setup d hearsEvents listed) =
      (m.lane target calls).finishSetup policy call setup.unnumbered d hearsEvents listed := by
  obtain ⟨htarget, e, he, hid⟩ := lookup?_of_settingUp hapart hledger hmem hpending
  have hnone : m.worker? target = none := by
    refine List.find?_eq_none.mpr fun w hw hfound => ?_
    have hsetup := mem_setups hledger.distinct (setupOf?_of_call? hpending)
    exact hledger.target_ne_of_setup hsetup hw ((beq_iff_eq.mp hfound).trans htarget.symm)
  unfold finishSetup Lane.finishSetup
  rw [show (m.lane target calls).now = m.now from rfl,
    show setup.unnumbered.request = setup.request from rfl]
  dsimp only
  cases openSession? policy setup.request d listed hearsEvents m.now with
  | none => exact lane_failSetup hapart hledger hmem hpending _
  | some opening =>
      have hworker : (setup.worker opening).target = target := htarget
      have hlane := lane_announce hapart hledger he hid
        (performAll .accepting setup.sink setup.request.target m.sinks opening.effects).1
        hworker hnone
      subst htarget
      dsimp only
      have hopened : ([.opened setup.request.target] : List Occurrence).filter
          (Occurrence.concerns setup.request.target calls) = [.opened setup.request.target] := by
        simp [Occurrence.concerns]
      rw [lane_answerCall hmem, List.filter_append, filter_performAll, hopened]
      exact congrArg (fun l : Lane => l.answerCall call (.subscribed (.ok .started))
        ((performAll .accepting setup.sink setup.request.target () opening.effects).2 ++
          [.opened setup.request.target])) hlane

theorem lane_takeListed {p : PendingCall} (hpending : m.call? call = some p)
    (answer : Except WatchError (List Event)) :
    (m.takeListed policy .accepting call answer p).map (Stepped.lane target calls) =
      (m.lane target calls).takeListed policy call answer (m.laneCall p) := by
  cases p with
  | settingUp setup =>
      unfold takeListed Lane.takeListed laneCall
      dsimp only
      rw [show setup.unnumbered.stage = setup.stage from rfl]
      cases setup.stage with
      | listing d hearsEvents =>
          exact congrArg some (lane_finishSetup hapart hledger hmem hpending d hearsEvents _)
      | fetching | watching | watchingEvents => rfl
  | waiting | stopping | reading => rfl

/-! ## Calls that wait, and calls that are given up -/

theorem lane_resume {p : PendingCall} (hpending : m.call? call = some p)
    (hroom : m.Roomy policy (.resume call)) :
    (m.resume call p).map (Stepped.lane target calls) =
      (m.lane target calls).resume call (m.laneCall p) := by
  cases p with
  | waiting entry request sink =>
      have htarget : request.target = target := (hapart.own call hmem _ hpending).1
      unfold resume Lane.resume laneCall
      dsimp only
      cases hannounced : m.announced.contains entry with
      | true => exact congrArg some (lane_answerCall hmem m _ [])
      | false =>
          cases hregistered : m.isRegistered entry with
          | true => rfl
          | false =>
              have hlooks : Looks policy m (.resume call) call request sink :=
                .again hpending (by simpa using hannounced) hregistered
              have hfree := hroom call request sink hlooks
              rw [htarget] at hfree
              exact congrArg some (lane_attempt hapart hledger hmem htarget hfree sink)
  | stopping entries =>
      have hdone : entries.all m.done.contains = !entries.any m.isRegistered := by
        rw [Bool.eq_iff_iff, Bool.not_eq_true', List.any_eq_false]
        simpa using hledger.marked.all_done_iff hpending
      unfold resume Lane.resume laneCall
      dsimp only
      rw [hdone]
      cases entries.any m.isRegistered with
      | true => rfl
      | false => exact congrArg some (lane_answerCall hmem m _ [])
  | settingUp | reading => rfl

theorem lane_abandon {p : PendingCall} (hpending : m.call? call = some p) :
    (m.abandon call p).lane target calls =
      (m.lane target calls).abandon call (m.laneCall p) := by
  cases p with
  | settingUp setup =>
      obtain ⟨-, e, he, hid⟩ := lookup?_of_settingUp hapart hledger hmem hpending
      rw [abandon, lane_dropCall, lane_unregister hapart hledger he hid]
      rfl
  | waiting | stopping | reading => exact lane_dropCall m call

end OwnCalls

/-! ## The worker of the target -/

theorem lane_isCancelled (hledger : Ledger perCallerLimit globalLimit m) {w : Worker}
    (hw : m.worker? target = some w) :
    m.isCancelled w.id = (m.lane target calls).entry.any LaneEntry.cancelled := by
  obtain ⟨e, he, hid⟩ := hledger.lookup?_of_slot (slot_mem_of_worker (mem_of_worker? hw))
  rw [show w.slot.target = target from target_of_worker? hw] at he
  have hentry : (m.lane target calls).entry.any LaneEntry.cancelled = e.cancelled := by
    rw [entry_lane he]
    rfl
  rw [hentry, isCancelled, Bool.eq_iff_iff, List.any_eq_true]
  have hmem := (mem_of_lookup? he).1
  constructor
  · rintro ⟨f, hf, hfound⟩
    obtain ⟨hfid, hcancelled⟩ := Bool.and_eq_true_iff.mp hfound
    have hsame : f.id = e.id := (beq_iff_eq.mp hfid).trans hid.symm
    rwa [List.inj_on_of_nodup_map hledger.nodup_ids hf hmem hsame] at hcancelled
  · intro hcancelled
    exact ⟨e, hmem, Bool.and_eq_true_iff.mpr ⟨beq_iff_eq.mpr hid, hcancelled⟩⟩

theorem lane_endWorker {σ : Type} {m : Manager σ} (hapart : Apart target calls m)
    (hledger : Ledger perCallerLimit globalLimit m) {w : Worker} (hw : m.worker? target = some w)
    (world : σ) (ending : Ending) (said : List Occurrence) :
    Stepped.lane target calls (({ m with sinks := world } : Manager σ).endWorker w ending said) =
      (m.lane target calls).endWorker w.unnumbered ending
        (said.filter (Occurrence.concerns target calls)) := by
  have hclosed : ([.closed w.target ending] : List Occurrence).filter
      (Occurrence.concerns target calls) = [.closed w.target ending] := by
    simp [Occurrence.concerns, target_of_worker? hw]
  rw [Stepped.lane, endWorker, lane_dropWorker hapart hledger hw, List.filter_append, hclosed]
  rfl

theorem lane_workOn (hapart : Apart target calls m)
    (hledger : Ledger perCallerLimit globalLimit m) {w : Worker} (hw : m.worker? target = some w)
    (signal : Signal) (inbox : Inbox) :
    Stepped.lane target calls (m.workOn .accepting w signal inbox) =
      (m.lane target calls).workOn w.unnumbered signal inbox := by
  obtain rfl := target_of_worker? hw
  unfold workOn Lane.workOn
  dsimp only
  rw [show (m.lane w.target calls).now = m.now from rfl,
    show w.unnumbered.session = w.session from rfl]
  cases (w.session.take m.now signal).ending with
  | some ending =>
      dsimp only
      rw [lane_endWorker hapart hledger hw, filter_performAll]
      rfl
  | none =>
      dsimp only
      rw [Stepped.lane, filter_performAll]
      exact congrArg (·, _) (lane_updateWorker hledger.distinct hw rfl)

theorem lane_work (hapart : Apart target calls m)
    (hledger : Ledger perCallerLimit globalLimit m) {w : Worker}
    (hw : m.worker? target = some w) :
    (m.work policy .accepting w).map (Stepped.lane target calls) =
      (m.lane target calls).work policy w.unnumbered := by
  unfold work Lane.work
  rw [lane_isCancelled hledger hw, show w.unnumbered.session = w.session from rfl,
    show w.unnumbered.finished = w.finished from rfl,
    show w.unnumbered.inbox = w.inbox from rfl]
  split
  · exact congrArg some (lane_endWorker hapart hledger hw m.sinks _ [])
  · split
    · exact congrArg some (lane_endWorker hapart hledger hw m.sinks _ [])
    · cases w.inbox.next? ((m.lane target calls).entry.any LaneEntry.cancelled)
        w.session.hearsEvents with
      | none => rfl
      | some next => exact congrArg some (lane_workOn hapart hledger hw next.1 next.2)

/-! ## Arrivals -/

/-- The setup of a target is that in its lane. -/
theorem setup?_lane (hapart : Apart target calls m)
    (hledger : Ledger perCallerLimit globalLimit m) :
    (m.lane target calls).setup? =
      (m.setup? target).map fun found => (found.1, found.2.unnumbered) := by
  have hown : ∀ c ∈ m.calls, c.1 ∈ calls → m.IsAbout target c.2 :=
    fun c hc => hapart.mem_calls hledger hc
  have hothers : ∀ c ∈ m.calls, c.1 ∉ calls → c.2.target? ≠ some target :=
    fun c hc => hapart.target?_ne hledger hc
  unfold Lane.setup? setup? lane callsAmong
  dsimp only
  generalize m.calls = pending at hown hothers ⊢
  induction pending with
  | nil => rfl
  | cons c rest ih =>
      have hrest := ih (fun c hc => hown c (List.mem_cons_of_mem _ hc))
        (fun c hc => hothers c (List.mem_cons_of_mem _ hc))
      obtain ⟨call, p⟩ := c
      by_cases hmem : call ∈ calls
      · have habout : m.IsAbout target p := hown _ List.mem_cons_self hmem
        rw [List.filter_cons, if_pos (List.contains_iff_mem.mpr hmem), List.map_cons,
          List.findSome?_cons, List.findSome?_cons]
        cases p with
        | settingUp setup =>
            have htarget : setup.request.target = target := habout
            simp [laneCall, htarget]
        | waiting | stopping | reading => exact hrest
      · have hne : p.target? ≠ some target := hothers _ List.mem_cons_self hmem
        rw [List.filter_cons, if_neg (mt List.contains_iff_mem.mp hmem), List.findSome?_cons]
        cases p with
        | settingUp setup =>
            have htarget : setup.request.target ≠ target := fun h => hne (congrArg some h)
            simp only [htarget, if_false]
            exact hrest
        | waiting | stopping | reading => exact hrest

theorem lane_arrive (hapart : Apart target calls m)
    (hledger : Ledger perCallerLimit globalLimit m) (input : Input) :
    (m.arrive target input).map (lane · target calls) = (m.lane target calls).arrive input := by
  unfold arrive Lane.arrive
  cases hw : m.worker? target with
  | some w =>
      rw [worker_lane, hw]
      exact congrArg some (lane_updateWorker hledger.distinct hw rfl)
  | none =>
      rw [worker_lane, hw, setup?_lane hapart hledger]
      cases hfind : m.setup? target with
      | none => rfl
      | some found =>
          obtain ⟨call, setup⟩ := found
          have hmem : call ∈ calls := by
            by_contra hother
            obtain ⟨hpending, htarget⟩ := mem_calls_of_setup? hfind
            exact hapart.target?_ne hledger hpending hother (congrArg some htarget)
          dsimp only [Option.map_some]
          rw [show setup.unnumbered.stage = setup.stage from rfl]
          split
          · exact congrArg some (m.lane_keepCall hmem _)
          · rfl

/-! ## Steps that concern the target -/

/-- A call to stop everything tells the subscription of the target so. -/
theorem lane_beginShutdown {σ : Type} (m : Manager σ) (hother : call ∉ calls) :
    Stepped.lane target calls (m.beginStop call fun _ => true) =
      ((m.lane target calls).cancel, []) := by
  have hcancelled : (m.cancelWhere fun _ => true).lane target calls =
      (m.lane target calls).cancel :=
    m.lane_cancelWhere fun _ _ _ => rfl
  unfold beginStop
  dsimp only
  split
  · rename_i hempty
    have hnone : m.registry = [] := by simpa using hempty
    have hentry : (m.lane target calls).entry = none := by
      rw [lane, lookup?, hnone]
      rfl
    have hsame : (m.lane target calls).cancel = m.lane target calls := by
      rw [Lane.cancel, hentry]
      exact Lane.ext rfl rfl hentry.symm rfl rfl
    rw [Stepped.lane, answerCall, lane_dropCall_of_not_mem m hother, hsame]
    simp [Occurrence.concerns, hother]
  · rw [Stepped.lane, lane_keepCall_of_not_mem _ hother, hcancelled]
    rfl

/-- Pending calls about the target go on as they do in the lane, if each of them does. -/
theorem lane_bind_call? (hmem : call ∈ calls) {f : PendingCall → Option (Stepped Unit)}
    {g : LaneCall → Option Lane.Stepped}
    (h : ∀ p, m.call? call = some p →
      (f p).map (Stepped.lane target calls) = g (m.laneCall p)) :
    ((m.call? call).bind f).map (Stepped.lane target calls) =
      ((m.lane target calls).call? call).bind g := by
  rw [call?_lane m hmem]
  cases hcall : m.call? call with
  | none => rfl
  | some p => exact h p hcall

/-- A call about the target begins as it does in the lane, and so does a call to stop everything. -/
theorem step_lane_of_begins (hapart : Apart target calls m)
    (hledger : Ledger perCallerLimit globalLimit m) (hattributed : label.Attributed target calls)
    (hconcerns : label.concerns target calls = true) (hbegins : label.begins? = some call)
    (hfresh : m.call? call = none) (hroom : m.Roomy policy label) :
    (m.step policy .accepting label).map (Stepped.lane target calls) =
      (m.lane target calls).step policy label := by
  have habout : call ∈ calls ↔ label.beginsAbout? target = some call := hattributed call hbegins
  cases label with
  | subscribe call' request =>
      obtain rfl := Option.some.inj hbegins
      have hmem : call' ∈ calls := List.contains_iff_mem.mp hconcerns
      have htarget : request.target = target :=
        (Option.ite_none_right_eq_some.mp (habout.mp hmem)).1
      rw [step, ifFresh_of_fresh hfresh]
      exact congrArg some (lane_beginSubscribe hapart hledger hmem htarget hfresh hroom)
  | unsubscribe call' place =>
      obtain rfl := Option.some.inj hbegins
      have hmem : call' ∈ calls := List.contains_iff_mem.mp hconcerns
      obtain rfl : place = target := (Option.ite_none_right_eq_some.mp (habout.mp hmem)).1
      rw [step, ifFresh_of_fresh hfresh]
      exact congrArg some (lane_beginStop hmem m)
  | shutdown call' =>
      obtain rfl := Option.some.inj hbegins
      have hother : call' ∉ calls := by
        intro hmem
        cases habout.mp hmem
      rw [step, ifFresh_of_fresh hfresh]
      exact congrArg some (lane_beginShutdown m hother)
  | readState call' place =>
      obtain rfl := Option.some.inj hbegins
      rw [step, ifFresh_of_fresh hfresh]
      exact congrArg some (lane_beginRead (List.contains_iff_mem.mp hconcerns) m place)
  | fetched | watched | eventsWatched | listed | resume | abandon | arrive | work | setClock
  | bind => cases hbegins

/-- A call about the target that has begun goes on as it does in the lane. -/
theorem step_lane_of_pending (hapart : Apart target calls m)
    (hledger : Ledger perCallerLimit globalLimit m) (hmem : call ∈ calls)
    (hcall : label.call? = some call) (hbegun : label.begins? = none)
    (hroom : m.Roomy policy label) :
    (m.step policy .accepting label).map (Stepped.lane target calls) =
      (m.lane target calls).step policy label := by
  cases label with
  | fetched call' answer =>
      obtain rfl := Option.some.inj hcall
      exact lane_bind_call? hmem fun p hp => lane_takeFetched hapart hledger hmem hp answer
  | watched call' answer =>
      obtain rfl := Option.some.inj hcall
      exact lane_bind_call? hmem fun p hp => lane_takeWatched hapart hledger hmem hp answer
  | eventsWatched call' answer =>
      obtain rfl := Option.some.inj hcall
      exact lane_bind_call? hmem fun p _ => lane_takeEventsWatched hmem answer p
  | listed call' answer =>
      obtain rfl := Option.some.inj hcall
      exact lane_bind_call? hmem fun p hp => lane_takeListed hapart hledger hmem hp answer
  | resume call' =>
      obtain rfl := Option.some.inj hcall
      exact lane_bind_call? hmem fun p hp => lane_resume hapart hledger hmem hp hroom
  | abandon call' =>
      obtain rfl := Option.some.inj hcall
      rw [step, Lane.step, call?_lane m hmem]
      cases hp : m.call? call' with
      | none => rfl
      | some p => exact congrArg (fun l => some (l, [])) (lane_abandon hapart hledger hmem hp)
  | subscribe | unsubscribe | shutdown | readState => cases hbegun
  | arrive | work | setClock | bind => cases hcall

/-- What arrives for the target arrives in the lane. -/
theorem step_lane_arrive (hapart : Apart target calls m)
    (hledger : Ledger perCallerLimit globalLimit m) (input : Input) :
    (m.step policy .accepting (.arrive target input)).map (Stepped.lane target calls) =
      (m.lane target calls).step policy (.arrive target input) := by
  rw [step, Lane.step, ← lane_arrive hapart hledger, Option.map_map, Option.map_map]
  rfl

/-- The worker of the target works as the one of the lane does. -/
theorem step_lane_work (hapart : Apart target calls m)
    (hledger : Ledger perCallerLimit globalLimit m) :
    (m.step policy .accepting (.work target)).map (Stepped.lane target calls) =
      (m.lane target calls).step policy (.work target) := by
  rw [step, Lane.step]
  cases hw : m.worker? target with
  | none =>
      rw [worker_lane, hw]
      rfl
  | some w =>
      rw [worker_lane, hw]
      exact lane_work hapart hledger hw

/-- A step that concerns a target is a step of its lane, as long as there is room for those that
look for it. -/
theorem step_lane (hapart : Apart target calls m)
    (hledger : Ledger perCallerLimit globalLimit m) (hattributed : label.Attributed target calls)
    (hconcerns : label.concerns target calls = true)
    (hfresh : ∀ call, label.begins? = some call → m.call? call = none)
    (hroom : m.Roomy policy label) :
    (m.step policy .accepting label).map (Stepped.lane target calls) =
      (m.lane target calls).step policy label := by
  cases label with
  | subscribe call | unsubscribe call | shutdown call | readState call =>
      exact step_lane_of_begins hapart hledger hattributed hconcerns rfl (hfresh call rfl) hroom
  | fetched | watched | eventsWatched | listed | resume | abandon =>
      exact step_lane_of_pending hapart hledger (List.contains_iff_mem.mp hconcerns) rfl rfl hroom
  | arrive place input =>
      obtain rfl : place = target := beq_iff_eq.mp hconcerns
      exact step_lane_arrive hapart hledger input
  | work place =>
      obtain rfl : place = target := beq_iff_eq.mp hconcerns
      exact step_lane_work hapart hledger
  | setClock | bind => rfl

/-! ## Steps that do not -/

/-- A setup of another target holds an entry of that target. -/
theorem entry_of_other {σ : Type} {m : Manager σ} (hapart : Apart target calls m)
    (hledger : Ledger perCallerLimit globalLimit m) (hother : call ∉ calls) {setup : Setup}
    (hpending : m.call? call = some (.settingUp setup)) :
    setup.request.target ≠ target ∧ ∃ e ∈ m.registry, e.id = setup.id ∧ e.target ≠ target := by
  have htarget : setup.request.target ≠ target :=
    fun heq => hapart.others call hother _ hpending (congrArg some heq)
  have hsetup := mem_setups hledger.distinct (setupOf?_of_call? hpending)
  obtain ⟨e, he, hid, hplace⟩ :=
    hledger.entry_of_slot (List.mem_append_left _ (List.mem_map_of_mem hsetup))
  exact ⟨htarget, e, he, hid, fun heq => htarget (hplace.symm.trans heq)⟩

/-- A setup of another target is given up. -/
theorem sameFor_dropSetup {σ : Type} {m : Manager σ} (hapart : Apart target calls m)
    (hledger : Ledger perCallerLimit globalLimit m) (hother : call ∉ calls) {setup : Setup}
    (hpending : m.call? call = some (.settingUp setup)) :
    SameFor target calls m
      ((m.unregister setup.id setup.request.caller).dropCall call) := by
  obtain ⟨-, e, he, hid, hne⟩ := entry_of_other hapart hledger hother hpending
  exact (sameFor_unregister hledger he hid hne _).dropCall hother

/-- A call about another target returns without the target. -/
theorem filter_returned (hother : call ∉ calls) (result : CallResult) :
    ([.returned call result] : List Occurrence).filter (Occurrence.concerns target calls) = [] := by
  simp [Occurrence.concerns, hother]

/-- Whatever a worker of another target says last, it is not for the target. -/
theorem Ends.filter_said {σ : Type} {sinks : SinkInterface σ} {m : Manager σ} {w : Worker}
    {ending : Ending} {said : List Occurrence} (h : Ends policy sinks m w ending said)
    (hother : w.target ≠ target) : said.filter (Occurrence.concerns target calls) = [] := by
  cases h with
  | finished | brokeDown => rfl
  | turned => exact filter_performAll_of_ne sinks _ hother _ _

/-- Other steps do not touch the target, and nothing occurs for it in them. -/
theorem Act.sameFor_of_not_concerns {σ : Type} {sinks : SinkInterface σ} {m : Manager σ}
    {r : Stepped σ} (hapart : Apart target calls m) (hledger : Ledger perCallerLimit globalLimit m)
    (hattributed : label.Attributed target calls)
    (hother : label.concerns target calls = false) (h : Act policy sinks m label r) :
    SameFor target calls m r.1 ∧ r.2.filter (Occurrence.concerns target calls) = [] := by
  have hcall : ∀ {call : Nat}, label.call? = some call → call ∉ calls :=
    fun hown => Label.not_mem_of_concerns hown hother
  have hsame : SameFor target calls m m := .refl target calls m
  cases h with
  | returns returns =>
      have hmem := hcall returns.call?
      exact ⟨hsame.dropCall hmem, filter_returned hmem _⟩
  | waits looks found unannounced => exact ⟨hsame.keepCall (hcall looks.call?) _, rfl⟩
  | begins looks free room =>
      have hmem := hcall looks.call?
      have hne := mt (hapart.looks_iff hattributed looks).mpr hmem
      exact ⟨(sameFor_register m _ hne).keepCall hmem _, rfl⟩
  | fails pending fails =>
      have hmem := hcall fails.call?
      exact ⟨sameFor_dropSetup hapart hledger hmem pending, filter_returned hmem _⟩
  | advances pending advances => exact ⟨hsame.keepCall (hcall advances.call?) _, rfl⟩
  | @opens call setup d hearsEvents answer opening pending listing session =>
      have hmem : call ∉ calls := hcall rfl
      obtain ⟨htarget, e, he, hid, hne⟩ := entry_of_other hapart hledger hmem pending
      have hworker : (setup.worker opening).target ≠ target := htarget
      refine ⟨(sameFor_announce he hid hne _ hworker).dropCall hmem, ?_⟩
      rw [List.filter_append, filter_performAll_of_ne sinks _ htarget]
      simp [Occurrence.concerns, htarget, hmem]
  | @abandons call p pending =>
      have hmem : call ∉ calls := hcall rfl
      refine ⟨?_, rfl⟩
      cases p with
      | settingUp setup => exact sameFor_dropSetup hapart hledger hmem pending
      | waiting | stopping | reading => exact hsame.dropCall hmem
  | stops stops fresh =>
      have hmem := hcall (stops_call? stops)
      cases stops with
      | unsubscribe call place =>
          have hne : place ≠ target := by
            rintro rfl
            exact hmem ((hattributed _ rfl).mpr (if_pos rfl))
          refine ⟨(sameFor_cancelWhere m fun e _ htarget => ?_).keepCall hmem _, rfl⟩
          simpa [htarget] using Ne.symm hne
      | shutdown => cases hother
  | reads fresh sound allowed => exact ⟨hsame.keepCall (hcall rfl) _, rfl⟩
  | @reaches place input w found =>
      have hne : place ≠ target := beq_eq_false_iff_ne.mp hother
      rw [← target_of_worker? found] at hne
      exact ⟨sameFor_updateWorker hledger.distinct (mem_of_worker? found) rfl hne, rfl⟩
  | @precedes place input call setup found =>
      have hne : place ≠ target := beq_eq_false_iff_ne.mp hother
      have hmem : call ∉ calls := by
        intro hmem
        obtain ⟨hpending, hplace⟩ := mem_calls_of_setup? found
        have habout := hapart.mem_calls hledger hpending hmem
        exact hne (hplace.symm.trans habout)
      exact ⟨hsame.keepCall hmem _, rfl⟩
  | @ends world place w ending said found ends =>
      have hne : place ≠ target := beq_eq_false_iff_ne.mp hother
      rw [← target_of_worker? found] at hne
      refine ⟨sameFor_dropWorker hledger (mem_of_worker? found) hne world, ?_⟩
      rw [endWorker, List.filter_append, ends.filter_said hne]
      simp [Occurrence.concerns, hne]
  | @turns world place w signal inbox found running ticks next going =>
      have hne : place ≠ target := beq_eq_false_iff_ne.mp hother
      rw [← target_of_worker? found] at hne
      have hupdated : SameFor target calls m (m.updateWorker
          { w with session := (w.session.take m.now signal).session, inbox := inbox }) :=
        sameFor_updateWorker hledger.distinct (mem_of_worker? found) rfl hne
      refine ⟨?_, filter_performAll_of_ne sinks _ hne _ _⟩
      exact ⟨rfl, rfl, rfl, hupdated.worker, rfl, fun _ _ => rfl, fun _ _ => rfl⟩
  | setClock | bind => cases hother

/-- Other steps leave the lane of a target as it is. -/
theorem lane_of_not_concerns {σ : Type} {sinks : SinkInterface σ} {m : Manager σ}
    {r : Stepped σ} (hapart : Apart target calls m) (hledger : Ledger perCallerLimit globalLimit m)
    (hattributed : label.Attributed target calls)
    (hother : label.concerns target calls = false)
    (hstep : m.step policy sinks label = some r) :
    Stepped.lane target calls r = (m.lane target calls, []) := by
  obtain ⟨hsame, hnothing⟩ :=
    (step_acts hstep).sameFor_of_not_concerns hapart hledger hattributed hother
  rw [Stepped.lane, hsame.lane_eq hapart hledger, hnothing]

end Manager
end ProvisionWatch

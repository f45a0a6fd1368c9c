import ProvisionWatch.Proofs.Manager.Acts

/-!
# What a step does to the subscriptions

A step of the manager has many causes, but it does one of six things to the
subscriptions it keeps: nothing; a setup begins; a setup is given up; a setup
hands its slot to a worker; a worker takes an input and goes on; a worker ends.
What follows about all steps is read off these six cases and not off the steps.

Main results:

- Theorem `step_moves`: every step is one of the six.
- Theorem `run_induction`: what every step keeps holds at the end of a run.
-/

namespace ProvisionWatch

/-- A worker apart from what waits for it. -/
def Worker.withoutInbox (w : Worker) : Worker :=
  { w with inbox := .empty }

namespace Manager

variable {σ : Type} {policy : Policy} {sinks : SinkInterface σ}

/-- What a step with some result does to the subscriptions. -/
inductive Change (policy : Policy) (sinks : SinkInterface σ) (m : Manager σ) (r : Stepped σ) :
    Prop where
  /-- No slot, no entry and no session is touched. -/
  | none (keys : r.1.registry.map Entry.key = m.registry.map Entry.key)
      (nextId : r.1.nextId = m.nextId) (quota : r.1.quota = m.quota)
      (slots : r.1.slots.Perm m.slots)
      (workers : r.1.workers.map Worker.withoutInbox = m.workers.map Worker.withoutInbox)
      (aside : ∀ o ∈ r.2, o.isAside = true)
  /-- A target is registered and a slot taken for it. -/
  | begun (slot : Slot) (free : m.lookup? slot.target = Option.none)
      (entry : slot.entry = m.nextId) (quota : m.quota.acquire slot.caller = .ok r.1.quota)
      (keys : r.1.registry.map Entry.key = m.registry.map Entry.key ++ [slot.key])
      (nextId : r.1.nextId = m.nextId + 1) (slots : r.1.slots.Perm (slot :: m.slots))
      (workers : r.1.workers = m.workers) (aside : ∀ o ∈ r.2, o.isAside = true)
  /-- A setup gives its slot back. -/
  | givenUp (setup : Setup) (mem : setup ∈ m.setups)
      (registry : r.1.registry = m.registry.filter fun e => e.id != setup.id)
      (nextId : r.1.nextId = m.nextId)
      (quota : r.1.quota = m.quota.release setup.request.caller)
      (slots : m.slots.Perm (setup.slot :: r.1.slots)) (workers : r.1.workers = m.workers)
      (aside : ∀ o ∈ r.2, o.isAside = true)
  /-- The slot of a setup passes to a worker. -/
  | opened (setup : Setup) (mem : setup ∈ m.setups) (d : Deployment) (listed : List Event)
      (hearsEvents : Bool) (opening : Opening)
      (opens : openSession? policy setup.request d listed hearsEvents m.now = some opening)
      (w : Worker) (slot : w.slot = setup.slot) (session : w.session = opening.session)
      (finished : w.finished = opening.finished)
      (registry : r.1.registry = m.registry) (nextId : r.1.nextId = m.nextId)
      (quota : r.1.quota = m.quota) (slots : r.1.slots.Perm m.slots)
      (workers : r.1.workers = m.workers ++ [w]) (call : Nat)
      (occurred : r.2 =
        (performAll sinks setup.sink w.target m.sinks opening.effects).2 ++
          [.opened w.target, .returned call (.subscribed (.ok .started))])
  /-- A worker turns to a signal and goes on. -/
  | turned (w : Worker) (mem : w ∈ m.workers) (running : w.finished = false) (signal : Signal)
      (inbox : Inbox) (going : (w.session.take m.now signal).ending = Option.none)
      (registry : r.1.registry = m.registry) (nextId : r.1.nextId = m.nextId)
      (quota : r.1.quota = m.quota) (slots : r.1.slots = m.slots)
      (workers : r.1.workers = (m.updateWorker
        { w with session := (w.session.take m.now signal).session, inbox := inbox }).workers)
      (occurred : r.2 =
        (performAll sinks w.sink w.target m.sinks (w.session.take m.now signal).effects).2)
  /-- A worker ends and gives its slot back. -/
  | ended (w : Worker) (mem : w ∈ m.workers) (ending : Ending) (said : List Occurrence)
      (ends : Ends policy sinks m w ending said)
      (registry : r.1.registry = m.registry.filter fun e => e.id != w.id)
      (nextId : r.1.nextId = m.nextId) (quota : r.1.quota = m.quota.release w.caller)
      (slots : m.slots.Perm (w.slot :: r.1.slots))
      (workers : r.1.workers = m.workers.filter fun v => v.id != w.id)
      (occurred : r.2 = said ++ [.closed w.target ending])

/-- What a step does: calls keep numbers of their own, the clock shows some reading, and the
subscriptions change in one way. -/
structure Moves (policy : Policy) (sinks : SinkInterface σ) (m : Manager σ) (now : Instant)
    (r : Stepped σ) : Prop where
  calls : (r.1.calls.map Prod.fst).Nodup
  now : r.1.now = now
  change : Change policy sinks m r

/-! ## Calls -/

/-- A call that sets nothing up returns. -/
theorem moves_answerCall {m : Manager σ} (hm : m.Distinct) {call : Nat}
    (hcall : m.setupOf? call = none) (result : CallResult) :
    Moves policy sinks m m.now (m.answerCall call result []) where
  calls := nodup_dropCall hm.calls call
  now := rfl
  change := .none rfl rfl rfl (slots_dropCall hm hcall) rfl (List.forall_mem_singleton.mpr rfl)

/-- A call is kept with its setup, or without one. -/
theorem moves_keepCall {m : Manager σ} (hm : m.Distinct) {call : Nat} {p : PendingCall}
    (hslot : p.setup?.map Setup.slot = (m.setupOf? call).map Setup.slot)
    {occurred : List Occurrence} (haside : ∀ o ∈ occurred, o.isAside = true) :
    Moves policy sinks m m.now (m.keepCall call p, occurred) where
  calls := nodup_keepCall hm.calls call p
  now := rfl
  change := .none rfl rfl rfl (slots_keepCall hm hslot) rfl haside

/-- A call that sets a subscription up fails. -/
theorem moves_failSetup {m : Manager σ} (hm : m.Distinct) {call : Nat} {setup : Setup}
    (hcall : m.setupOf? call = some setup) (result : CallResult) :
    Moves policy sinks m m.now (m.failSetup call setup result) where
  calls := nodup_dropCall hm.calls call
  now := rfl
  change := .givenUp setup (mem_setups hm hcall) rfl rfl rfl (slots_dropSetup hm hcall) rfl
    (List.forall_mem_singleton.mpr rfl)

/-- A call that found room begins a setup. -/
theorem moves_beginSetup {m : Manager σ} (hm : m.Distinct) {call : Nat}
    (hcall : m.setupOf? call = none) {request : SubscribeRequest} (sink : Nat) {quota : Quota}
    (hfree : m.lookup? request.target = none)
    (hroom : m.quota.acquire request.caller = .ok quota) :
    Moves policy sinks m m.now
      (m.beginSetup call request sink quota, [.asked (.fetch request.target)]) := by
  refine ⟨nodup_keepCall hm.calls call _, rfl, ?_⟩
  let setup : Setup :=
    { id := m.nextId, request := request, sink := sink, stage := .fetching, inbox := .empty }
  exact .begun setup.slot hfree rfl hroom (by simp [beginSetup, register, keepCall, Entry.key]; rfl)
    rfl (slots_keepSetup hm setup hcall) rfl (List.forall_mem_singleton.mpr rfl)

/-- A setup comes to its first update: its slot passes to its worker. -/
theorem moves_startWorker {m : Manager σ} (hm : m.Distinct) {call : Nat} {setup : Setup}
    (hcall : m.setupOf? call = some setup) {d : Deployment} {listed : List Event}
    {hearsEvents : Bool} {opening : Opening}
    (hopens : openSession? policy setup.request d listed hearsEvents m.now = some opening)
    (world : σ) :
    Moves policy sinks m m.now
      (m.startWorker call setup opening world,
        (performAll sinks setup.sink setup.request.target m.sinks opening.effects).2 ++
          [.opened setup.request.target, .returned call (.subscribed (.ok .started))]) := by
  have hslots : (m.startWorker call setup opening world).slots.Perm m.slots := by
    refine List.Perm.trans ?_ (slots_dropSetup hm hcall).symm
    have hworkers : (m.startWorker call setup opening world).slots =
        (m.dropCall call).slots ++ [setup.slot] := by
      simp only [slots, List.append_assoc]
      rw [show (m.startWorker call setup opening world).workers =
        m.workers ++ [setup.worker opening] from rfl, List.map_append]
      rfl
    rw [hworkers]
    exact List.perm_append_singleton _ _
  exact ⟨nodup_dropCall hm.calls call, rfl,
    .opened setup (mem_setups hm hcall) d listed hearsEvents opening hopens
      (setup.worker opening) rfl rfl rfl rfl rfl rfl hslots rfl call rfl⟩

/-- A call tells entries to stop: they stay what they are. -/
theorem moves_cancelWhere {m : Manager σ} (hm : m.Distinct) {call : Nat}
    (hcall : m.setupOf? call = none) (test : Entry → Bool) (entries : List Nat) :
    Moves policy sinks m m.now ((m.cancelWhere test).keepCall call (.stopping entries), []) := by
  have hkeys : (m.cancelWhere test).registry.map Entry.key = m.registry.map Entry.key := by
    simp only [cancelWhere, List.map_map]
    refine List.map_congr_left fun e _ => ?_
    simp only [Function.comp_apply]
    split <;> rfl
  have hslots : (m.keepCall call (.stopping entries)).slots.Perm m.slots :=
    slots_keepCall hm (by rw [hcall]; rfl)
  exact ⟨nodup_keepCall hm.calls call _, rfl, .none hkeys rfl rfl hslots rfl (by simp)⟩

/-- A call is given up, and its setup with it. -/
theorem moves_abandon {m : Manager σ} (hm : m.Distinct) {call : Nat} {p : PendingCall}
    (hp : m.call? call = some p) : Moves policy sinks m m.now (m.abandon call p, []) := by
  have hcall := setupOf?_of_call? hp
  refine ⟨?_, ?_, ?_⟩
  · cases p <;> exact nodup_dropCall hm.calls call
  · cases p <;> rfl
  · cases p with
    | settingUp setup =>
        exact .givenUp setup (mem_setups hm hcall) rfl rfl rfl (slots_dropSetup hm hcall) rfl
          (by simp)
    | waiting | stopping | reading =>
        exact .none rfl rfl rfl (slots_dropCall hm hcall) rfl (by simp)

/-! ## Workers -/

/-- A worker that takes in what arrives is the same apart from its inbox. -/
theorem workers_updateInbox {m : Manager σ} (hm : m.Distinct) {w : Worker} (hw : w ∈ m.workers)
    (inbox : Inbox) :
    (m.updateWorker { w with inbox := inbox }).workers.map Worker.withoutInbox =
      m.workers.map Worker.withoutInbox := by
  simp only [updateWorker, List.map_map]
  refine List.map_congr_left fun v hv => ?_
  by_cases hid : v.id = w.id
  · have hvw : v = w := hm.worker_eq hv hw hid
    simp [hvw, Worker.withoutInbox]
  · simp [hid]

/-- A worker ends. -/
theorem moves_endWorker {m : Manager σ} (hm : m.Distinct) {w : Worker} (hw : w ∈ m.workers)
    {ending : Ending} {said : List Occurrence} (hends : Ends policy sinks m w ending said)
    (world : σ) :
    Moves policy sinks m m.now
      (({ m with sinks := world } : Manager σ).endWorker w ending said) where
  calls := hm.calls
  now := rfl
  change := .ended w hw ending said hends rfl rfl rfl (slots_dropWorker hm hw) rfl rfl

/-! ## Steps -/

/-- What the clock shows after a step. -/
def readingAfter (m : Manager σ) : Label → Instant
  | .setClock now => now
  | _ => m.now

/-- The clock goes on only by itself. -/
theorem readingAfter_of_call? (m : Manager σ) {label : Label} {call : Nat}
    (h : label.call? = some call) : m.readingAfter label = m.now := by
  cases label with
  | setClock => cases h
  | _ => rfl

/-- However a step comes about, it does one of six things to the subscriptions. -/
theorem Act.moves {m : Manager σ} (hm : m.Distinct) {label : Label} {r : Stepped σ}
    (h : Act policy sinks m label r) : Moves policy sinks m (m.readingAfter label) r := by
  cases h with
  | returns returns =>
      rw [m.readingAfter_of_call? returns.call?]
      exact moves_answerCall hm returns.setupOf? _
  | waits looks found unannounced =>
      rw [m.readingAfter_of_call? looks.call?]
      exact moves_keepCall hm (by rw [looks.setupOf?]; rfl) (by simp)
  | begins looks free room =>
      rw [m.readingAfter_of_call? looks.call?]
      exact moves_beginSetup hm looks.setupOf? _ free room
  | fails pending fails =>
      rw [m.readingAfter_of_call? fails.call?]
      exact moves_failSetup hm (setupOf?_of_call? pending) _
  | advances pending advances =>
      rw [m.readingAfter_of_call? advances.call?]
      exact moves_keepCall hm (by rw [setupOf?_of_call? pending]; rfl)
        (List.forall_mem_singleton.mpr rfl)
  | opens pending listing session =>
      exact moves_startWorker hm (setupOf?_of_call? pending) session _
  | abandons pending => exact moves_abandon hm pending
  | stops stops fresh =>
      rw [m.readingAfter_of_call? (stops_call? stops)]
      exact moves_cancelWhere hm (setupOf?_of_fresh fresh) _ _
  | reads fresh sound allowed =>
      exact moves_keepCall hm (by rw [setupOf?_of_fresh fresh]; rfl)
        (List.forall_mem_singleton.mpr rfl)
  | reaches found =>
      have hmem := mem_of_worker? found
      exact ⟨hm.calls, rfl, .none rfl rfl rfl (List.Perm.of_eq (slots_updateWorker hm hmem rfl))
        (workers_updateInbox hm hmem _) (by simp)⟩
  | precedes found =>
      have hcall := setupOf?_of_call? (call?_of_setup? hm found)
      exact moves_keepCall hm (by rw [hcall]; rfl) (by simp)
  | ends world found ends => exact moves_endWorker hm (mem_of_worker? found) ends world
  | turns world found running ticks next going =>
      exact ⟨hm.calls, rfl, .turned _ (mem_of_worker? found) running _ _ going rfl rfl rfl
        (slots_updateWorker hm (mem_of_worker? found) rfl) rfl rfl⟩
  | setClock | bind =>
      exact ⟨hm.calls, rfl, .none rfl rfl rfl (List.Perm.refl _) rfl (by simp)⟩

/-- Every step does one of six things to the subscriptions. -/
theorem step_moves {m : Manager σ} (hm : m.Distinct) {label : Label} {r : Stepped σ}
    (h : m.step policy sinks label = some r) :
    Moves policy sinks m (m.readingAfter label) r :=
  (step_acts h).moves hm

/-! ## Runs -/

section Runs

variable {motive : Manager σ → List Occurrence → Prop} {labels : List Label}

/-- A run is its first step, and a run from what that leaves. -/
theorem run_cons_eq_some_iff {m : Manager σ} {label : Label} {r : Stepped σ} :
    m.run policy sinks (label :: labels) = some r ↔
      ∃ first later, m.step policy sinks label = some first ∧
        first.1.run policy sinks labels = some later ∧ (later.1, first.2 ++ later.2) = r := by
  rw [run]
  cases hstep : m.step policy sinks label with
  | none => simp
  | some first => simp [Option.map_eq_some_iff]

/-- One run goes on where another one has come to. -/
theorem run_append {m m₁ m₂ : Manager σ} {later : List Label} {occurred more : List Occurrence}
    (hrun : m.run policy sinks labels = some (m₁, occurred))
    (hlater : m₁.run policy sinks later = some (m₂, more)) :
    m.run policy sinks (labels ++ later) = some (m₂, occurred ++ more) := by
  induction labels generalizing m occurred with
  | nil =>
      obtain ⟨rfl, rfl⟩ := Prod.mk.inj (Option.some.inj hrun)
      exact hlater
  | cons label rest ih =>
      obtain ⟨first, last, hfirst, hlast, heq⟩ := run_cons_eq_some_iff.mp hrun
      obtain ⟨rfl, rfl⟩ := Prod.mk.inj heq
      refine run_cons_eq_some_iff.mpr ⟨first, _, hfirst, ih hlast, ?_⟩
      rw [List.append_assoc]

/-- What holds of a state and of all that occurred before, and is kept by every step of a run,
holds at its end. -/
theorem run_induction_after
    (hstep : ∀ m before label m' occurred, label ∈ labels → motive m before →
      m.step policy sinks label = some (m', occurred) → motive m' (before ++ occurred))
    {m : Manager σ} {before : List Occurrence} (hstart : motive m before)
    {m' : Manager σ} {occurred : List Occurrence}
    (hrun : m.run policy sinks labels = some (m', occurred)) :
    motive m' (before ++ occurred) := by
  induction labels generalizing m before occurred with
  | nil =>
      obtain ⟨rfl, rfl⟩ := Prod.mk.inj (Option.some.inj hrun)
      rwa [List.append_nil]
  | cons label rest ih =>
      obtain ⟨⟨next, first⟩, ⟨last, later⟩, hfirst, hlater, heq⟩ := run_cons_eq_some_iff.mp hrun
      obtain ⟨rfl, rfl⟩ := Prod.mk.inj heq
      have hnext := hstep m before label next first List.mem_cons_self hstart hfirst
      have hrest := ih
        (fun m before label m' occurred hmem =>
          hstep m before label m' occurred (List.mem_cons_of_mem _ hmem))
        hnext hlater
      rwa [List.append_assoc] at hrest

/-- What holds before anything occurred, and is kept by every step of a run, holds at its end. -/
theorem run_induction
    (hstep : ∀ m before label m' occurred, label ∈ labels → motive m before →
      m.step policy sinks label = some (m', occurred) → motive m' (before ++ occurred))
    {m : Manager σ} (hstart : motive m []) {m' : Manager σ} {occurred : List Occurrence}
    (hrun : m.run policy sinks labels = some (m', occurred)) : motive m' occurred := by
  have hend := run_induction_after hstep hstart hrun
  rwa [List.nil_append] at hend

end Runs

end Manager
end ProvisionWatch

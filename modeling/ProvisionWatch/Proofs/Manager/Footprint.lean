import ProvisionWatch.Manager.Counting
import ProvisionWatch.Proofs.Manager.Bystanders
import ProvisionWatch.Proofs.Manager.DoneMarks
import ProvisionWatch.Proofs.Quota.Balance

/-!
# What a call to subscribe leaves behind

Until its subscription streams, a call to subscribe holds no more than its own
setup: a slot of the quota and an entry of the registry.  Each of its steps
takes such a setup up, moves it on, or gives it back as a whole.  Seen without
what the call holds, the manager is therefore the same before and after each of
these steps, whatever other calls do in between.

Main results:

- Theorem `Act.tidy`: numbers of entries are past, and only admitted targets are
  asked about.
- Theorem `Act.leavesNoTrace`: the steps of a call change nothing but what it holds.
-/

namespace ProvisionWatch

/-! ## Refusals that are counted -/

namespace Metrics

/-- One refusal more is counted under a label, and nothing else is counted. -/
structure CountsRefusal (before after : Metrics) (label : String) : Prop where
  counted : after.rejected.count [label] = before.rejected.count [label] + 1
  others : ∀ other, other ≠ label →
    after.rejected.count [other] = before.rejected.count [other]
  rest : { after with rejected := before.rejected } = before

theorem countsRefusal_countRejected (m : Metrics) (label : String) :
    m.CountsRefusal (m.countRejected label) label where
  counted := Tally.count_add_self [label] m.rejected
  others other hne := by
    have hapart : Tally.together [other] [label] = false := by
      simp [Tally.together, String.join, hne]
    exact Tally.count_add_of_ne hapart m.rejected
  rest := rfl

/-- Questions are not counted. -/
@[simp]
theorem recordAll_asked (m : Metrics) (questions : List Question) (later : List Occurrence) :
    m.recordAll (questions.map Occurrence.asked ++ later) = m.recordAll later := by
  induction questions with
  | nil => rfl
  | cons q rest ih => exact ih

end Metrics

/-! ## Targets that may be asked about -/

/-- A target has a namespace and a name, and its namespace may be read. -/
structure Policy.Admits (policy : Policy) (target : Target) : Prop where
  ns : Text.isBlankText target.ns = false
  name : Text.isBlankText target.name = false
  admitted : policy.allowList.admits target.ns = true

theorem Policy.admits_iff {policy : Policy} {target : Target} :
    policy.Admits target ↔
      target.check = none ∧ policy.allowList.authorize target.ns = none := by
  rw [Target.check_eq_none_iff, AllowList.authorize_eq_none_iff]
  exact ⟨fun h => ⟨⟨h.ns, h.name⟩, h.admitted⟩, fun h => ⟨h.1.1, h.1.2, h.2⟩⟩

/-- The target that a pending call is about. -/
def PendingCall.target? : PendingCall → Option Target
  | waiting _ request _ => some request.target
  | settingUp setup => some setup.request.target
  | reading target => some target
  | stopping _ => none

namespace Manager

variable {σ : Type} {policy : Policy} {sinks : SinkInterface σ}
variable {m m' m'' : Manager σ} {label : Label} {call : Nat} {r : Stepped σ}

/-- What passes the checks may be asked about. -/
theorem admits_of_refusal? {request : SubscribeRequest} (h : refusal? policy request = none) :
    policy.Admits request.target := by
  unfold refusal? at h
  split at h
  · cases h
  · rename_i hcheck
    split at h
    · cases h
    · exact Policy.admits_iff.mpr ⟨hcheck, h⟩

/-- What holds in every state that a manager can reach, with whatever slots are taken when it
starts: the numbers of its entries are past and its marks tell of entries that are gone, the quota
lists each caller once, and its calls are about targets that may be asked about. -/
structure Tidy (policy : Policy) (m : Manager σ) : Prop where
  marked : m.Marked
  names : (m.quota.held.map Prod.fst).Nodup
  admits : ∀ c ∈ m.calls, ∀ target, c.2.target? = some target → policy.Admits target

theorem Tidy.admits_of_call? (h : Tidy policy m) {p : PendingCall} (hp : m.call? call = some p)
    {target : Target} (htarget : p.target? = some target) : policy.Admits target :=
  h.admits _ (mem_of_call? hp) target htarget

theorem Tidy.admits_of_looks (h : Tidy policy m) {request : SubscribeRequest} {sink : Nat}
    (hlooks : Looks policy m label call request sink) : policy.Admits request.target := by
  cases hlooks with
  | anew fresh passes bound => exact admits_of_refusal? passes
  | again waiting unannounced gone => exact h.admits_of_call? waiting rfl

/-- The quota lists each caller once, whoever takes a slot or gives one back. -/
theorem Act.nodup_names (hnames : (m.quota.held.map Prod.fst).Nodup)
    (h : Act policy sinks m label r) : (r.1.quota.held.map Prod.fst).Nodup := by
  have hreleased : ∀ caller, ((m.quota.release caller).held.map Prod.fst).Nodup := fun caller =>
    hnames.sublist (Quota.names_countDown_sublist caller m.quota.held)
  cases h with
  | begins looks free room =>
      obtain ⟨-, -, rfl⟩ := Quota.acquire_eq_ok room
      exact Quota.nodup_names_countUp _ hnames
  | fails | ends => exact hreleased _
  | @abandons _ p pending =>
      cases p with
      | settingUp => exact hreleased _
      | waiting | stopping | reading => exact hnames
  | returns | waits | advances | opens | stops | reads | reaches | precedes | turns | setClock
  | bind => exact hnames

/-- The calls after a step are about targets that may be asked about. -/
theorem Act.admits (hm : Tidy policy m) (h : Act policy sinks m label r) :
    ∀ c ∈ r.1.calls, ∀ target, c.2.target? = some target → policy.Admits target := by
  have hdrop : ∀ call, ∀ c ∈ (m.dropCall call).calls, ∀ target, c.2.target? = some target →
      policy.Admits target := fun _ c hc => hm.admits c (List.mem_of_mem_filter hc)
  have hkeep : ∀ call (p : PendingCall), (∀ target, p.target? = some target →
      policy.Admits target) → ∀ c ∈ (m.keepCall call p).calls, ∀ target,
        c.2.target? = some target → policy.Admits target := by
    intro call p hp c hc
    rcases List.mem_append.mp hc with hc | hc
    · exact hdrop call c hc
    · rw [List.mem_singleton.mp hc]
      exact hp
  cases h with
  | returns | fails | opens => exact hdrop _
  | @abandons _ p pending => cases p <;> exact hdrop _
  | waits looks | begins looks =>
      refine hkeep _ _ fun target htarget => ?_
      exact Option.some.inj htarget ▸ hm.admits_of_looks looks
  | advances pending => exact hkeep _ _ fun target => hm.admits_of_call? pending
  | stops => exact hkeep _ _ nofun
  | reads fresh sound allowed =>
      refine hkeep _ _ fun target htarget => ?_
      exact Option.some.inj htarget ▸ Policy.admits_iff.mpr ⟨sound, allowed⟩
  | precedes found =>
      refine hkeep _ _ fun target => hm.admits _ (mem_calls_of_setup? found).1 target
  | reaches | ends | turns | setClock | bind => exact hm.admits

/-- Every step keeps a manager tidy. -/
theorem Act.tidy (hm : Tidy policy m) (h : Act policy sinks m label r) : Tidy policy r.1 where
  marked := h.marked hm.marked
  names := h.nodup_names hm.names
  admits := h.admits hm

/-! ## The manager without a call -/

/-- The manager without what a call holds. -/
def without (m : Manager σ) (call : Nat) : Manager σ :=
  match m.call? call with
  | some p => m.abandon call p
  | none => m

/-- Nothing differs but the call itself and the number for the next entry, and no other call is
told of another teardown. -/
structure AsBefore (call : Nat) (m m' : Manager σ) : Prop where
  now : m'.now = m.now
  sinks : m'.sinks = m.sinks
  bound : m'.bound = m.bound
  registry : m'.registry = m.registry
  announced : m'.announced = m.announced
  workers : m'.workers = m.workers
  others : ∀ other, other ≠ call → m'.call? other = m.call? other
  done : ∀ other p, other ≠ call → m.call? other = some p → ∀ id ∈ p.awaited,
    (id ∈ m'.done ↔ id ∈ m.done)
  perCallerLimit : m'.quota.perCallerLimit = m.quota.perCallerLimit
  globalLimit : m'.quota.globalLimit = m.quota.globalLimit
  inUse : m'.quota.inUse = m.quota.inUse
  heldBy : ∀ caller, m'.quota.heldBy caller = m.quota.heldBy caller

theorem AsBefore.refl (call : Nat) (m : Manager σ) : AsBefore call m m :=
  ⟨rfl, rfl, rfl, rfl, rfl, rfl, fun _ _ => rfl, fun _ _ _ _ _ _ => Iff.rfl, rfl, rfl, rfl,
    fun _ => rfl⟩

theorem AsBefore.symm (h : AsBefore call m m') : AsBefore call m' m where
  now := h.now.symm
  sinks := h.sinks.symm
  bound := h.bound.symm
  registry := h.registry.symm
  announced := h.announced.symm
  workers := h.workers.symm
  others other hne := (h.others other hne).symm
  done other p hne hp id hid := (h.done other p hne (h.others other hne ▸ hp) id hid).symm
  perCallerLimit := h.perCallerLimit.symm
  globalLimit := h.globalLimit.symm
  inUse := h.inUse.symm
  heldBy caller := (h.heldBy caller).symm

theorem AsBefore.trans (h : AsBefore call m m') (h' : AsBefore call m' m'') :
    AsBefore call m m'' where
  now := h'.now.trans h.now
  sinks := h'.sinks.trans h.sinks
  bound := h'.bound.trans h.bound
  registry := h'.registry.trans h.registry
  announced := h'.announced.trans h.announced
  workers := h'.workers.trans h.workers
  others other hne := (h'.others other hne).trans (h.others other hne)
  done other p hne hp id hid :=
    (h'.done other p hne ((h.others other hne).trans hp) id hid).trans
      (h.done other p hne hp id hid)
  perCallerLimit := h'.perCallerLimit.trans h.perCallerLimit
  globalLimit := h'.globalLimit.trans h.globalLimit
  inUse := h'.inUse.trans h.inUse
  heldBy caller := (h'.heldBy caller).trans (h.heldBy caller)

/-- What differs in its calls at most, and there in one call, is as before. -/
theorem asBefore_of_calls (m : Manager σ) {calls : List (Nat × PendingCall)}
    (hothers : ∀ other, other ≠ call → calls.lookup other = m.call? other) :
    AsBefore call m { m with calls := calls } :=
  ⟨rfl, rfl, rfl, rfl, rfl, rfl, hothers, fun _ _ _ _ _ _ => Iff.rfl, rfl, rfl, rfl, fun _ => rfl⟩

theorem asBefore_dropCall (m : Manager σ) (call : Nat) : AsBefore call m (m.dropCall call) :=
  m.asBefore_of_calls fun _ hne => m.call?_dropCall_of_ne hne

theorem asBefore_keepCall (m : Manager σ) (call : Nat) (p : PendingCall) :
    AsBefore call m (m.keepCall call p) :=
  m.asBefore_of_calls fun _ hne => m.call?_keepCall_of_ne p hne

theorem without_of_done (h : m.call? call = none) : m.without call = m := by
  rw [without, h]

theorem without_of_call? {p : PendingCall} (h : m.call? call = some p) :
    m.without call = m.abandon call p := by
  rw [without, h]

/-- A call that sets nothing up holds nothing. -/
theorem asBefore_without (h : m.setupOf? call = none) : AsBefore call m (m.without call) := by
  cases hcall : m.call? call with
  | none =>
      rw [without_of_done hcall]
      exact .refl call m
  | some p =>
      rw [without_of_call? hcall]
      rw [setupOf?_of_call? hcall] at h
      cases p with
      | settingUp => cases h
      | waiting | stopping | reading => exact m.asBefore_dropCall call

theorem asBefore_wait (m : Manager σ) (call entry : Nat) (request : SubscribeRequest)
    (sink : Nat) :
    AsBefore call m ((m.keepCall call (.waiting entry request sink)).without call) :=
  (m.asBefore_keepCall call _).trans
    (asBefore_without (setupOf?_of_call? (call?_keepCall m call (.waiting entry request sink))))

/-- A setup that is begun and given up again was never there. -/
theorem asBefore_beginSetup (hm : Tidy policy m) {request : SubscribeRequest} {sink : Nat}
    {quota : Quota} (hroom : m.quota.acquire request.caller = .ok quota) :
    AsBefore call m ((m.beginSetup call request sink quota).without call) := by
  obtain ⟨hinUse, hheldBy⟩ := Quota.release_acquire hm.names hroom
  have hregistry : (m.registry ++
      [({ id := m.nextId, target := request.target, cancelled := false } : Entry)]).filter
        (fun e => e.id != m.nextId) = m.registry := by
    rw [List.filter_append, List.filter_eq_self.mpr]
    · simp
    · intro e he
      simpa using Nat.ne_of_lt (hm.marked.entries_lt e he)
  have hothers : ∀ other, other ≠ call →
      (((m.beginSetup call request sink quota).unregister m.nextId request.caller).dropCall
        call).call? other = m.call? other := by
    intro other hne
    rw [call?_dropCall_of_ne _ hne]
    exact call?_keepCall_of_ne _ _ hne
  -- The mark of the teardown is one that nobody waits for.
  have hdone : ∀ other p, other ≠ call → m.call? other = some p → ∀ id ∈ p.awaited,
      (id ∈ m.done ++ [m.nextId] ↔ id ∈ m.done) := by
    intro other p _ hp id hid
    rw [List.mem_append, List.mem_singleton]
    exact or_iff_left (Nat.ne_of_lt (hm.marked.awaited_lt (mem_of_call? hp) hid))
  obtain ⟨-, -, hquota⟩ := Quota.acquire_eq_ok hroom
  rw [beginSetup, without_of_call? (call?_keepCall _ _ _)]
  exact ⟨rfl, rfl, rfl, hregistry, rfl, rfl, hothers, hdone, by rw [hquota]; rfl,
    by rw [hquota]; rfl, hinUse, hheldBy⟩

/-- A setup that is kept in another stage holds what it held before. -/
theorem asBefore_advance {setup : Setup} (hpending : m.call? call = some (.settingUp setup))
    (stage : Stage) (question : Question) :
    AsBefore call (m.without call) ((m.advance call setup stage question).1.without call) := by
  have hothers : ∀ other, other ≠ call →
      (((m.keepCall call (.settingUp { setup with stage := stage })).unregister setup.id
        setup.request.caller).dropCall call).call? other =
      ((m.unregister setup.id setup.request.caller).dropCall call).call? other := by
    intro other hne
    rw [call?_dropCall_of_ne _ hne, call?_dropCall_of_ne _ hne]
    exact call?_keepCall_of_ne _ _ hne
  rw [advance, without_of_call? hpending, without_of_call? (call?_keepCall _ _ _)]
  exact ⟨rfl, rfl, rfl, rfl, rfl, rfl, hothers, fun _ _ _ _ _ _ => Iff.rfl, rfl, rfl, rfl,
    fun _ => rfl⟩

/-! ## The steps of a call to subscribe -/

/-- A call to subscribe takes the step. -/
inductive Subscribes (m : Manager σ) : Label → Nat → Prop where
  | begins (call : Nat) (request : SubscribeRequest) :
      Subscribes m (.subscribe call request) call
  | waits {label : Label} {call entry sink : Nat} {request : SubscribeRequest}
      (own : label.call? = some call)
      (waiting : m.call? call = some (.waiting entry request sink)) : Subscribes m label call
  | setsUp {label : Label} {call : Nat} {setup : Setup} (own : label.call? = some call)
      (pending : m.call? call = some (.settingUp setup)) : Subscribes m label call

theorem Subscribes.call? (h : Subscribes m label call) : label.call? = some call := by
  cases h with
  | begins => rfl
  | waits own | setsUp own => exact own

/-- A step of a call to subscribe changes nothing but what the call holds, and nothing occurs in it
but that the call asks, or returns. -/
structure LeavesNoTrace (m : Manager σ) (call : Nat) (r : Stepped σ) : Prop where
  asBefore : AsBefore call (m.without call) (r.1.without call)
  quiet : (∃ questions : List Question, r.2 = questions.map Occurrence.asked) ∨
    ∃ result, r.2 = [.returned call result] ∧ r.1.call? call = none

/-- What is counted in such a step is the refusal of the call, if it is refused. -/
theorem LeavesNoTrace.counted (h : LeavesNoTrace m call r) (metrics : Metrics) :
    (∀ e, .returned call (.subscribed (.error e)) ∈ r.2 →
      metrics.CountsRefusal (metrics.recordAll r.2) e.label) ∧
      ((∀ e, .returned call (.subscribed (.error e)) ∉ r.2) → metrics.recordAll r.2 = metrics) := by
  rcases h.quiet with ⟨questions, hasked⟩ | ⟨result, hreturned, -⟩
  · have hsame : metrics.recordAll r.2 = metrics := by
      rw [hasked, ← List.append_nil (questions.map _), Metrics.recordAll_asked]
      rfl
    refine ⟨fun e he => ?_, fun _ => hsame⟩
    rw [hasked] at he
    simp at he
  · rw [hreturned]
    refine ⟨fun e he => ?_, fun hnone => ?_⟩
    · obtain rfl : CallResult.subscribed (.error e) = result := by simpa using he
      exact metrics.countsRefusal_countRejected e.label
    · cases result with
      | subscribed outcome =>
          cases outcome with
          | error e => exact absurd List.mem_cons_self (hnone e)
          | ok => rfl
      | brokeDown | stopped | state => rfl

/-- Unless its subscription begins to stream, a call to subscribe leaves no trace. -/
theorem Act.leavesNoTrace (hm : Tidy policy m) (h : Act policy sinks m label r)
    (hsubscribes : Subscribes m label call)
    (hgoing : .returned call (.subscribed (.ok .started)) ∉ r.2) : LeavesNoTrace m call r := by
  have hown : ∀ {other : Nat}, label.call? = some other → other = call := fun hother =>
    Option.some.inj (hother.symm.trans hsubscribes.call?)
  have hnew : ∀ {other : Nat}, label.call? = some other → m.call? other = none →
      ∃ request, label = .subscribe call request := by
    intro other hother hfresh
    obtain rfl := hown hother
    cases hsubscribes with
    | begins _ request => exact ⟨request, rfl⟩
    | waits _ pending | setsUp _ pending => rw [hfresh] at pending; cases pending
  cases h with
  | @returns _ _ result returns =>
      obtain rfl := hown returns.call?
      refine ⟨?_, .inr ⟨result, rfl, m.call?_dropCall _⟩⟩
      rw [answerCall, without_of_done (m.call?_dropCall _)]
      exact (asBefore_without returns.setupOf?).symm.trans (m.asBefore_dropCall _)
  | waits looks found unannounced =>
      obtain rfl := hown looks.call?
      refine ⟨?_, .inl ⟨[], rfl⟩⟩
      exact (asBefore_without looks.setupOf?).symm.trans (m.asBefore_wait _ _ _ _)
  | begins looks free room =>
      obtain rfl := hown looks.call?
      refine ⟨?_, .inl ⟨[_], rfl⟩⟩
      exact (asBefore_without looks.setupOf?).symm.trans (asBefore_beginSetup hm room)
  | @fails _ _ setup result pending fails =>
      obtain rfl := hown fails.call?
      refine ⟨?_, .inr ⟨result, rfl, call?_dropCall _ _⟩⟩
      rw [failSetup, answerCall, without_of_done (call?_dropCall _ _), without_of_call? pending]
      exact .refl _ _
  | advances pending advances =>
      obtain rfl := hown advances.call?
      exact ⟨asBefore_advance pending _ _, .inl ⟨[_], rfl⟩⟩
  | opens pending listing session =>
      obtain rfl := hown rfl
      exact absurd (by simp) hgoing
  | @abandons own p pending =>
      obtain rfl := hown rfl
      refine ⟨?_, .inl ⟨[], rfl⟩⟩
      have hdone : (m.abandon own p).call? own = none := by
        cases p <;> exact call?_dropCall _ _
      rw [without_of_done hdone, without_of_call? pending]
      exact .refl _ _
  | stops stops fresh =>
      obtain ⟨request, rfl⟩ := hnew (stops_call? stops) fresh
      cases stops
  | reads fresh =>
      obtain ⟨request, heq⟩ := hnew rfl fresh
      cases heq
  | reaches | precedes | ends | turns | setClock | bind => cases hsubscribes.call?

end Manager
end ProvisionWatch

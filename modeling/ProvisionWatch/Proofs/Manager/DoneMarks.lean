import ProvisionWatch.Proofs.Manager.Acts

/-!
# Who is told that an entry is torn down

An entry is marked as done at the end of its teardown, when its slot and its
place in the registry are gone already, and a call to stop waits for that mark.
Numbers of entries are not given twice.  So a mark always tells of an entry that
is gone, and an entry that a call waits for is either registered still or marked:
the call sees all of its marks exactly when nothing of what it waits for is
registered.

Main results:

- Theorem `Act.marked`: every step keeps marks and registry in agreement.
- Theorem `Marked.all_done_iff`: what a call sees that waits for teardowns.
-/

namespace ProvisionWatch

/-- The entries that a call waits to see torn down. -/
def PendingCall.awaited : PendingCall → List Nat
  | stopping entries => entries
  | waiting _ _ _ | settingUp _ | reading _ => []

namespace Manager

variable {σ : Type} {policy : Policy} {sinks : SinkInterface σ} {m : Manager σ} {label : Label}
variable {call id : Nat} {r : Stepped σ}

/-- Numbers of entries are past, marked are only entries that are gone, and what a call waits for
is registered or marked. -/
structure Marked (m : Manager σ) : Prop where
  entries_lt : ∀ e ∈ m.registry, e.id < m.nextId
  setups_lt : ∀ c ∈ m.calls, ∀ setup, c.2 = .settingUp setup → setup.id < m.nextId
  workers_lt : ∀ w ∈ m.workers, w.id < m.nextId
  done_lt : ∀ id ∈ m.done, id < m.nextId
  gone : ∀ id ∈ m.done, m.isRegistered id = false
  awaited : ∀ c ∈ m.calls, ∀ id ∈ c.2.awaited, m.isRegistered id = true ∨ id ∈ m.done

theorem marked_start (now : Instant) (world : σ) (bound : Option Nat) (quota : Quota) :
    (Manager.start now world bound quota).Marked := by
  constructor <;> simp [start]

/-- A call sees all of its marks exactly when nothing of what it waits for is registered. -/
theorem Marked.all_done_iff (h : m.Marked) {entries : List Nat}
    (hstopping : m.call? call = some (.stopping entries)) :
    (∀ id ∈ entries, id ∈ m.done) ↔ ∀ id ∈ entries, m.isRegistered id = false := by
  refine forall₂_congr fun id hid => ⟨h.gone id, fun hgone => ?_⟩
  refine (h.awaited _ (mem_of_call? hstopping) id hid).resolve_left ?_
  rw [hgone]
  exact Bool.false_ne_true

@[simp]
theorem isRegistered_cancelWhere (m : Manager σ) (test : Entry → Bool) :
    (m.cancelWhere test).isRegistered = m.isRegistered := by
  funext id
  rw [isRegistered, isRegistered, cancelWhere, List.any_map]
  refine congrArg (List.any m.registry) (funext fun e => ?_)
  rw [Function.comp_apply]
  split <;> rfl

/-- Calls wait for entries whose numbers are past. -/
theorem Marked.awaited_lt (h : m.Marked) {c : Nat × PendingCall} (hc : c ∈ m.calls)
    (hid : id ∈ c.2.awaited) : id < m.nextId := by
  rcases h.awaited c hc id hid with hregistered | hdone
  · obtain ⟨e, he, heq⟩ := List.any_eq_true.mp hregistered
    exact beq_iff_eq.mp heq ▸ h.entries_lt e he
  · exact h.done_lt id hdone

/-! ## What a change does to the marks -/

namespace Marked

theorem dropCall (h : m.Marked) (call : Nat) : (m.dropCall call).Marked where
  entries_lt := h.entries_lt
  setups_lt c hc := h.setups_lt c (List.mem_of_mem_filter hc)
  workers_lt := h.workers_lt
  done_lt := h.done_lt
  gone := h.gone
  awaited c hc := h.awaited c (List.mem_of_mem_filter hc)

theorem keepCall (h : m.Marked) (call : Nat) {p : PendingCall}
    (hsetup : ∀ setup, p = .settingUp setup → setup.id < m.nextId)
    (hawaited : ∀ id ∈ p.awaited, m.isRegistered id = true) : (m.keepCall call p).Marked where
  entries_lt := h.entries_lt
  setups_lt c hc := by
    rcases List.mem_append.mp hc with hc | hc
    · exact h.setups_lt c (List.mem_of_mem_filter hc)
    · rw [List.mem_singleton.mp hc]
      exact hsetup
  workers_lt := h.workers_lt
  done_lt := h.done_lt
  gone := h.gone
  awaited c hc := by
    rcases List.mem_append.mp hc with hc | hc
    · exact h.awaited c (List.mem_of_mem_filter hc)
    · rw [List.mem_singleton.mp hc]
      exact fun id hid => .inl (hawaited id hid)

theorem keepSetup (h : m.Marked) (call : Nat) {setup : Setup} (hpast : setup.id < m.nextId) :
    (m.keepCall call (.settingUp setup)).Marked := by
  refine h.keepCall call ?_ fun id hid => absurd hid List.not_mem_nil
  rintro _ heq
  cases heq
  exact hpast

theorem keepPlain (h : m.Marked) (call : Nat) {p : PendingCall} (hsetup : p.setup? = none)
    (hawaited : p.awaited = []) : (m.keepCall call p).Marked := by
  refine h.keepCall call ?_ fun id hid => ?_
  · rintro setup rfl
    cases hsetup
  · rw [hawaited] at hid
    exact absurd hid List.not_mem_nil

/-- A target is registered under a number that was not given before. -/
theorem register (h : m.Marked) (quota : Quota) (target : Target) :
    (({ m with quota := quota } : Manager σ).register target).Marked where
  entries_lt e he := by
    rcases List.mem_append.mp he with he | he
    · exact Nat.lt_succ_of_lt (h.entries_lt e he)
    · rw [List.mem_singleton.mp he]
      exact Nat.lt_succ_self _
  setups_lt c hc setup hsetup := Nat.lt_succ_of_lt (h.setups_lt c hc setup hsetup)
  workers_lt w hw := Nat.lt_succ_of_lt (h.workers_lt w hw)
  done_lt id hid := Nat.lt_succ_of_lt (h.done_lt id hid)
  gone id hid := by
    have hne : m.nextId ≠ id := (Nat.ne_of_lt (h.done_lt id hid)).symm
    have hgone := h.gone id hid
    simp only [isRegistered] at hgone
    simp [isRegistered, Manager.register, hgone, hne]
  awaited c hc id hid := by
    refine (h.awaited c hc id hid).imp_left fun hregistered => ?_
    simp only [isRegistered] at hregistered
    simp [isRegistered, Manager.register, hregistered]

/-- A teardown removes an entry and marks it. -/
theorem unregister (h : m.Marked) (hpast : id < m.nextId) (caller : String) :
    (m.unregister id caller).Marked where
  entries_lt e he := h.entries_lt e (List.mem_of_mem_filter he)
  setups_lt := h.setups_lt
  workers_lt := h.workers_lt
  done_lt other hother := by
    rcases List.mem_append.mp hother with hother | hother
    · exact h.done_lt other hother
    · rw [List.mem_singleton.mp hother]
      exact hpast
  gone other hother := by
    rw [isRegistered, List.any_eq_false]
    intro e he
    obtain ⟨he, hne⟩ := List.mem_filter.mp he
    rcases List.mem_append.mp hother with hother | hother
    · exact List.any_eq_false.mp (h.gone other hother) e he
    · rw [List.mem_singleton.mp hother]
      simpa using hne
  awaited c hc other hother := by
    by_cases heq : other = id
    · exact .inr (List.mem_append_right _ (List.mem_singleton.mpr heq))
    · refine (h.awaited c hc other hother).imp ?_ fun hdone => List.mem_append_left _ hdone
      intro hregistered
      obtain ⟨e, he, hid⟩ := List.any_eq_true.mp hregistered
      have hne : e.id ≠ id := fun hsame => heq ((beq_iff_eq.mp hid).symm.trans hsame)
      exact List.any_eq_true.mpr ⟨e, List.mem_filter.mpr ⟨he, by simpa using hne⟩, hid⟩

theorem cancelWhere (h : m.Marked) (test : Entry → Bool) : (m.cancelWhere test).Marked := by
  refine ⟨?_, h.setups_lt, h.workers_lt, h.done_lt, ?_, ?_⟩
  · intro e he
    obtain ⟨f, hf, rfl⟩ := List.mem_map.mp he
    have hid := h.entries_lt f hf
    split <;> exact hid
  · rw [isRegistered_cancelWhere]
    exact h.gone
  · rw [isRegistered_cancelWhere]
    exact h.awaited

/-- Workers come and go under numbers that were given before. -/
theorem withWorkers {m' : Manager σ} (h : m.Marked) (hregistry : m'.registry = m.registry)
    (hnext : m'.nextId = m.nextId) (hdone : m'.done = m.done) (hcalls : m'.calls = m.calls)
    (hworkers : ∀ w ∈ m'.workers, w.id < m.nextId) : m'.Marked := by
  have hregistered : m'.isRegistered = m.isRegistered := by
    funext id
    rw [isRegistered, hregistry]
    rfl
  refine ⟨?_, ?_, ?_, ?_, ?_, ?_⟩ <;> simp only [hregistry, hregistered, hnext, hdone, hcalls]
  · exact h.entries_lt
  · exact h.setups_lt
  · exact hworkers
  · exact h.done_lt
  · exact h.gone
  · exact h.awaited

theorem setup_lt (h : m.Marked) {setup : Setup}
    (hpending : m.call? call = some (.settingUp setup)) :
    setup.id < m.nextId :=
  h.setups_lt _ (mem_of_call? hpending) setup rfl

theorem updateWorker_lt (h : m.Marked) {v w : Worker} (hv : v ∈ m.workers) (hid : w.id = v.id) :
    ∀ u ∈ (m.updateWorker w).workers, u.id < m.nextId := by
  intro u hu
  obtain ⟨t, ht, rfl⟩ := List.mem_map.mp hu
  split
  · rw [hid]
    exact h.workers_lt v hv
  · exact h.workers_lt t ht

end Marked

/-- Every step keeps marks and registry in agreement. -/
theorem Act.marked (hm : m.Marked) (h : Act policy sinks m label r) : r.1.Marked := by
  cases h with
  | returns => exact hm.dropCall _
  | waits | reads => exact hm.keepPlain _ rfl rfl
  | begins => exact (hm.register _ _).keepSetup _ (Nat.lt_succ_self _)
  | fails pending => exact (hm.unregister (hm.setup_lt pending) _).dropCall _
  | advances pending =>
      have hpast := hm.setup_lt pending
      exact hm.keepSetup _ hpast
  | precedes found =>
      have hpast := hm.setups_lt _ (mem_calls_of_setup? found).1 _ rfl
      exact hm.keepSetup _ hpast
  | @opens call setup d hearsEvents answer opening pending listing session =>
      have hworkers : ∀ w ∈ m.workers ++ [setup.worker opening], w.id < m.nextId := by
        intro w hw
        rcases List.mem_append.mp hw with hw | hw
        · exact hm.workers_lt w hw
        · rw [List.mem_singleton.mp hw]
          exact hm.setup_lt pending
      refine Marked.dropCall ?_ call
      exact hm.withWorkers rfl rfl rfl rfl hworkers
  | @abandons _ p pending =>
      cases p with
      | settingUp => exact (hm.unregister (hm.setup_lt pending) _).dropCall _
      | waiting | stopping | reading => exact hm.dropCall _
  | @stops label call test stops fresh =>
      refine (hm.cancelWhere test).keepCall call ?_ fun id hid => ?_
      · intro setup heq
        cases heq
      · rw [isRegistered_cancelWhere]
        obtain ⟨e, he, rfl⟩ := List.mem_map.mp hid
        exact List.any_eq_true.mpr ⟨e, (List.mem_filter.mp he).1, beq_self_eq_true _⟩
  | reaches found | turns _ found =>
      refine hm.withWorkers rfl rfl rfl rfl ?_
      exact hm.updateWorker_lt (mem_of_worker? found) rfl
  | @ends world target w ending said found ends =>
      have hgone := hm.unregister (hm.workers_lt w (mem_of_worker? found)) w.caller
      refine hgone.withWorkers rfl rfl rfl rfl fun v hv => ?_
      exact hm.workers_lt v (List.mem_of_mem_filter hv)
  | setClock | bind => exact hm.withWorkers rfl rfl rfl rfl hm.workers_lt

end Manager
end ProvisionWatch

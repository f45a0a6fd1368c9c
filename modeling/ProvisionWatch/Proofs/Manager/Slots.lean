import Mathlib.Data.List.Nodup
import ProvisionWatch.Manager.Step

/-!
# Who holds the slots of a manager

A slot is taken by a setup, passes to the worker that streams, and goes with
whoever holds it.  The manager itself keeps no list of slots: they are read off
its calls and its workers.

Main results:

- Theorem `setups_perm`: one call sets up at most one subscription.
- Theorem `slots_keepCall`: a call that stays with its setup keeps its slot.
- Theorem `slots_dropWorker`: a worker that goes takes one slot with it.
-/

namespace ProvisionWatch

/-- A slot that is taken: for which entry, by which caller, and for which target. -/
structure Slot where
  entry : Nat
  caller : String
  target : Target
deriving DecidableEq, Repr

/-- What a slot and an entry of the registry have in common. -/
def Slot.key (s : Slot) : Nat × Target :=
  (s.entry, s.target)

/-- What an entry of the registry and a slot have in common. -/
def Entry.key (e : Entry) : Nat × Target :=
  (e.id, e.target)

/-- The slot that a setup holds. -/
def Setup.slot (s : Setup) : Slot :=
  { entry := s.id, caller := s.request.caller, target := s.request.target }

/-- The slot that a worker holds. -/
def Worker.slot (w : Worker) : Slot :=
  { entry := w.id, caller := w.caller, target := w.target }

/-- The setup that a pending call is about. -/
def PendingCall.setup? : PendingCall → Option Setup
  | settingUp setup => some setup
  | waiting _ _ _ | stopping _ | reading _ => none

namespace Manager

variable {σ : Type}

/-- The setups in progress. -/
def setups (m : Manager σ) : List Setup :=
  m.calls.filterMap fun c => c.2.setup?

/-- The setup of a call, if the call is setting a subscription up. -/
def setupOf? (m : Manager σ) (call : Nat) : Option Setup :=
  (m.call? call).bind PendingCall.setup?

/-- The slots that are taken, each held by a setup in progress or by a worker. -/
def slots (m : Manager σ) : List Slot :=
  m.setups.map Setup.slot ++ m.workers.map Worker.slot

/-- Every call has a number of its own, and every slot an entry of its own. -/
structure Distinct (m : Manager σ) : Prop where
  calls : (m.calls.map Prod.fst).Nodup
  slots : (m.slots.map Slot.entry).Nodup

/-! ## Lists with distinct keys -/

/-- What a function picks from the values is what it picks for one key and what it picks from the
rest. -/
theorem filterMap_perm_lookup {β γ : Type} (f : β → Option γ) (key : Nat)
    {pairs : List (Nat × β)} (hnodup : (pairs.map Prod.fst).Nodup) :
    (pairs.filterMap fun p => f p.2).Perm
      (((pairs.lookup key).bind f).toList ++
        (pairs.filter fun p => p.1 != key).filterMap fun p => f p.2) := by
  induction pairs with
  | nil => simp
  | cons p rest ih =>
      obtain ⟨k, b⟩ := p
      rw [List.map_cons, List.nodup_cons] at hnodup
      by_cases hk : k = key
      · have hrest : (rest.filter fun p => p.1 != key) = rest := by
          rw [List.filter_eq_self]
          intro p hp
          have hne : p.1 ≠ key := by
            intro h
            exact hnodup.1 (List.mem_map.mpr ⟨p, hp, h.trans hk.symm⟩)
          simpa using hne
        cases hb : f b <;> simp [hk, hb, hrest]
      · have hne : (key == k) = false := by simpa using Ne.symm hk
        have hkeep : (k != key) = true := by simpa using hk
        have hrest := ih hnodup.2
        simp only [List.lookup_cons, hne, List.filter_cons, hkeep, if_true, List.filterMap_cons]
        cases hb : f b with
        | none => exact hrest
        | some c => exact (hrest.cons c).trans List.perm_middle.symm

/-- What is listed under a key is found under it. -/
theorem lookup_of_mem {β : Type} {pairs : List (Nat × β)} (hnodup : (pairs.map Prod.fst).Nodup)
    {key : Nat} {b : β} (h : (key, b) ∈ pairs) : pairs.lookup key = some b := by
  obtain ⟨before, after, rfl⟩ := List.append_of_mem h
  refine List.lookup_eq_some_iff.mpr ⟨before, after, rfl, ?_⟩
  intro p hp
  rw [List.map_append, List.nodup_append] at hnodup
  have hne := hnodup.2.2 p.1 (List.mem_map_of_mem hp) key List.mem_cons_self
  simpa using Ne.symm hne

/-- One member of a list and those with other keys make up the list. -/
theorem perm_cons_filter_ne {α β : Type} [DecidableEq β] (key : α → β) {l : List α}
    (hnodup : (l.map key).Nodup) {a : α} (ha : a ∈ l) :
    l.Perm (a :: l.filter fun b => key b != key a) := by
  induction l with
  | nil => cases ha
  | cons x rest ih =>
      rw [List.map_cons, List.nodup_cons] at hnodup
      rcases List.mem_cons.mp ha with rfl | ha
      · have hrest : (rest.filter fun b => key b != key a) = rest := by
          rw [List.filter_eq_self]
          intro b hb
          have hne : key b ≠ key a := by
            intro h
            exact hnodup.1 (List.mem_map.mpr ⟨b, hb, h⟩)
          simpa using hne
        simp [hrest]
      · have hne : key x ≠ key a := by
          intro h
          exact hnodup.1 (List.mem_map.mpr ⟨a, ha, h.symm⟩)
        have hkeep : (key x != key a) = true := by simpa using hne
        rw [List.filter_cons, if_pos hkeep]
        exact ((ih hnodup.2 ha).cons x).trans (List.Perm.swap a x _)

/-! ## Calls -/

/-- The setups are that of one call, if it has one, and those of the other calls. -/
theorem setups_perm {m : Manager σ} (hm : m.Distinct) (call : Nat) :
    m.setups.Perm ((m.setupOf? call).toList ++ (m.dropCall call).setups) :=
  filterMap_perm_lookup PendingCall.setup? call hm.calls

@[simp]
theorem setups_keepCall (m : Manager σ) (call : Nat) (p : PendingCall) :
    (m.keepCall call p).setups = (m.dropCall call).setups ++ p.setup?.toList := by
  simp only [setups, keepCall, dropCall, List.filterMap_append]
  cases hp : p.setup? <;> simp [hp]

/-- A call that sets nothing up takes no slot with it. -/
theorem slots_dropCall {m : Manager σ} (hm : m.Distinct) {call : Nat}
    (h : m.setupOf? call = none) : (m.dropCall call).slots.Perm m.slots := by
  have hperm := setups_perm hm call
  rw [h] at hperm
  exact ((hperm.symm.map Setup.slot).append_right _)

/-- A call that goes takes the slot of its setup with it. -/
theorem slots_dropSetup {m : Manager σ} (hm : m.Distinct) {call : Nat} {setup : Setup}
    (h : m.setupOf? call = some setup) : m.slots.Perm (setup.slot :: (m.dropCall call).slots) := by
  have hperm := setups_perm hm call
  rw [h] at hperm
  exact (hperm.map Setup.slot).append_right _

/-- A call that is kept keeps its slot, if it has the same one as before. -/
theorem slots_keepCall {m : Manager σ} (hm : m.Distinct) {call : Nat} {p : PendingCall}
    (h : p.setup?.map Setup.slot = (m.setupOf? call).map Setup.slot) :
    (m.keepCall call p).slots.Perm m.slots := by
  have hslot : (p.setup?.toList).map Setup.slot = (m.setupOf? call).toList.map Setup.slot := by
    rw [← Option.toList_map, h, Option.toList_map]
  refine List.Perm.append_right _ ?_
  rw [setups_keepCall, List.map_append, hslot, ← List.map_append]
  exact (List.perm_append_comm.trans (setups_perm hm call).symm).map Setup.slot

/-- A call that begins a setup takes a slot. -/
theorem slots_keepSetup {m : Manager σ} (hm : m.Distinct) {call : Nat} (setup : Setup)
    (h : m.setupOf? call = none) :
    (m.keepCall call (.settingUp setup)).slots.Perm (setup.slot :: m.slots) := by
  have hdrop := slots_dropCall hm h
  have hkeep : (m.keepCall call (.settingUp setup)).slots =
      ((m.dropCall call).setups.map Setup.slot ++ [setup.slot]) ++ m.workers.map Worker.slot := by
    simp only [slots, setups_keepCall, PendingCall.setup?, Option.toList_some, List.map_append,
      List.map_cons, List.map_nil]
    rfl
  rw [hkeep, List.append_assoc]
  exact (List.perm_middle).trans (hdrop.cons setup.slot)

theorem nodup_dropCall {m : Manager σ} (h : (m.calls.map Prod.fst).Nodup) (call : Nat) :
    ((m.dropCall call).calls.map Prod.fst).Nodup :=
  h.sublist (List.filter_sublist.map Prod.fst)

theorem nodup_keepCall {m : Manager σ} (h : (m.calls.map Prod.fst).Nodup) (call : Nat)
    (p : PendingCall) : ((m.keepCall call p).calls.map Prod.fst).Nodup := by
  have hdrop := nodup_dropCall h call
  simp only [keepCall, List.map_append, List.map_cons, List.map_nil]
  refine List.nodup_append.mpr ⟨hdrop, List.nodup_singleton _, ?_⟩
  intro a ha b hb hab
  obtain ⟨c, hc, rfl⟩ := List.mem_map.mp ha
  rw [List.mem_singleton.mp hb] at hab
  simp [hab] at hc

/-! ## Workers -/

theorem mem_setups {m : Manager σ} {call : Nat} {setup : Setup} (hm : m.Distinct)
    (h : m.setupOf? call = some setup) : setup ∈ m.setups := by
  refine (setups_perm hm call).mem_iff.mpr (List.mem_append_left _ ?_)
  simp [h]

/-- Workers have numbers of their own. -/
theorem Distinct.workers {m : Manager σ} (hm : m.Distinct) : (m.workers.map Worker.id).Nodup := by
  have h := hm.slots
  simp only [Manager.slots, List.map_append, List.map_map] at h
  exact (List.nodup_append.mp h).2.1

/-- A worker is told by its number. -/
theorem Distinct.worker_eq {m : Manager σ} (hm : m.Distinct) {v w : Worker} (hv : v ∈ m.workers)
    (hw : w ∈ m.workers) (h : v.id = w.id) : v = w :=
  List.inj_on_of_nodup_map hm.workers hv hw h

/-- A worker that goes takes its slot with it. -/
theorem slots_dropWorker {m : Manager σ} (hm : m.Distinct) {w : Worker} (hw : w ∈ m.workers) :
    m.slots.Perm
      (w.slot :: { m with workers := m.workers.filter fun v => v.id != w.id }.slots) := by
  have hworkers := perm_cons_filter_ne Worker.id hm.workers hw
  exact ((hworkers.map Worker.slot).append_left _).trans List.perm_middle

/-- A worker that is kept in the place of one with the same slot changes no slot. -/
theorem slots_updateWorker {m : Manager σ} (hm : m.Distinct) {v w : Worker} (hv : v ∈ m.workers)
    (h : w.slot = v.slot) : (m.updateWorker w).slots = m.slots := by
  have hid : w.id = v.id := congrArg Slot.entry h
  have hworkers : (m.updateWorker w).workers.map Worker.slot = m.workers.map Worker.slot := by
    simp only [updateWorker, List.map_map]
    refine List.map_congr_left fun u hu => ?_
    by_cases hu' : u.id = w.id
    · have huv : u = v := hm.worker_eq hu hv (hu'.trans hid)
      rw [huv] at hu' ⊢
      simp [hu', h]
    · simp [hu']
  exact congrArg (m.setups.map Setup.slot ++ ·) hworkers

end Manager
end ProvisionWatch

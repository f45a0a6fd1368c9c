import ProvisionWatch.Proofs.Manager.Bystanders
import ProvisionWatch.Proofs.Manager.Ledger

/-!
# Being told to stop

A call to stop subscriptions tells their entries so and waits until all of them
are gone.  Numbers of entries are not given twice, so an entry that was told so
is told so for good, whether its setup is still running or its worker streams:
a worker that comes later finds the word waiting for it.

Main results:

- Theorem `run_doomed`: an entry that was told to stop is never taken back.
- Theorem `step_work_of_doomed`: its worker ends at its next turn and takes nothing
  of what waits for it.
- Theorem `Ledger.released_of_done`: whoever is told of a teardown finds all given
  back.
- Theorem `run_stopping`: the call returns only after the entry is gone.
-/

namespace ProvisionWatch

/-- How a worker ends that was told to stop. -/
def Worker.haltedBy (w : Worker) (policy : Policy) : Ending :=
  if w.finished then .terminal
  else if policy.config.tickInterval.isZero then .aborted
  else .cancelled

namespace Manager

variable {σ : Type} {policy : Policy} {sinks : SinkInterface σ} {perCallerLimit globalLimit : Nat}
variable {m m' : Manager σ} {label : Label} {labels : List Label} {call id : Nat} {r : Stepped σ}
variable {occurred : List Occurrence}

/-! ## Entries that stop -/

/-- An entry was registered under a number and is gone. -/
structure Gone (m : Manager σ) (id : Nat) : Prop where
  past : id < m.nextId
  unregistered : ∀ e ∈ m.registry, e.id ≠ id

/-- An entry was registered under a number and was told to stop, if it is not gone already. -/
structure Doomed (m : Manager σ) (id : Nat) : Prop where
  past : id < m.nextId
  cancelled : ∀ e ∈ m.registry, e.id = id → e.cancelled = true

theorem Act.gone (h : Act policy sinks m label r) (hgone : m.Gone id) : r.1.Gone id := by
  obtain ⟨hnext, hentry⟩ := h.entry
  refine ⟨Nat.lt_of_lt_of_le hgone.past hnext, fun e he heq => ?_⟩
  rcases hentry e he with ⟨hnew, -⟩ | ⟨f, hf, hid, -⟩
  · exact Nat.ne_of_lt hgone.past (heq.symm.trans hnew)
  · exact hgone.unregistered f hf (hid.trans heq)

theorem Act.doomed (h : Act policy sinks m label r) (hdoomed : m.Doomed id) : r.1.Doomed id := by
  obtain ⟨hnext, hentry⟩ := h.entry
  refine ⟨Nat.lt_of_lt_of_le hdoomed.past hnext, fun e he heq => ?_⟩
  rcases hentry e he with ⟨hnew, -⟩ | ⟨f, hf, hid, hkeeps⟩
  · exact absurd (heq.symm.trans hnew) (Nat.ne_of_lt hdoomed.past)
  · exact hkeeps (hdoomed.cancelled f hf (hid.trans heq))

/-- What was told to stop is never taken back. -/
theorem run_doomed (hdoomed : m.Doomed id)
    (hrun : m.run policy sinks labels = some (m', occurred)) : m'.Doomed id := by
  refine run_induction (motive := fun m _ => m.Doomed id) ?_ hdoomed hrun
  intro m before label m' occurred _ hm hstep
  exact (step_acts hstep).doomed hm

/-! ## Workers that stop -/

/-- A slot stands for an entry of its target. -/
theorem Ledger.entry_of_slot (h : Ledger perCallerLimit globalLimit m) {s : Slot}
    (hs : s ∈ m.slots) : ∃ e ∈ m.registry, e.id = s.entry ∧ e.target = s.target := by
  obtain ⟨e, he, hkey⟩ := List.mem_map.mp (h.owned.mem_iff.mp (List.mem_map_of_mem hs))
  exact ⟨e, he, congrArg Prod.fst hkey, congrArg Prod.snd hkey⟩

theorem slot_mem_of_worker {w : Worker} (hw : w ∈ m.workers) : w.slot ∈ m.slots :=
  List.mem_append_right _ (List.mem_map_of_mem hw)

/-- A worker is found under its target. -/
theorem Ledger.worker?_eq (h : Ledger perCallerLimit globalLimit m) {w : Worker}
    (hw : w ∈ m.workers) : m.worker? w.target = some w := by
  cases hfind : m.worker? w.target with
  | none =>
      have hno := List.find?_eq_none.mp hfind w hw
      simp at hno
  | some v =>
      rw [h.worker_eq (mem_of_worker? hfind) hw (target_of_worker? hfind)]

/-- A worker that was told to stop is told so as an entry. -/
theorem doomed_of_isCancelled (h : Ledger perCallerLimit globalLimit m)
    (hcancelled : m.isCancelled id = true) : m.Doomed id := by
  obtain ⟨e, he, htold⟩ := List.any_eq_true.mp hcancelled
  obtain ⟨hid, htold⟩ := Bool.and_eq_true_iff.mp htold
  have hid : e.id = id := beq_iff_eq.mp hid
  refine ⟨hid ▸ h.ids_lt e.key (List.mem_map_of_mem he), fun f hf heq => ?_⟩
  rw [List.inj_on_of_nodup_map h.nodup_ids hf he (heq.trans hid.symm)]
  exact htold

/-- What was told to stop goes on to be told so as long as its worker is there. -/
theorem Doomed.isCancelled (h : Ledger perCallerLimit globalLimit m) {w : Worker}
    (hw : w ∈ m.workers) (hdoomed : m.Doomed w.id) : m.isCancelled w.id = true := by
  obtain ⟨e, he, hid, -⟩ := h.entry_of_slot (slot_mem_of_worker hw)
  have hid : e.id = w.id := hid
  refine List.any_eq_true.mpr ⟨e, he, ?_⟩
  rw [hdoomed.cancelled e he hid, Bool.and_true, beq_iff_eq]
  exact hid

/-- A worker that was told to stop does so at its next turn, whatever waits for it. -/
theorem step_work_of_doomed (h : Ledger perCallerLimit globalLimit m) {w : Worker}
    (hw : w ∈ m.workers) (hdoomed : m.Doomed w.id) :
    m.step policy sinks (.work w.target) = some (m.endWorker w (w.haltedBy policy) []) := by
  have hcancelled := hdoomed.isCancelled h hw
  rw [step, h.worker?_eq hw, Option.bind_some]
  unfold Worker.haltedBy
  split
  · rename_i hfinished
    rw [work, if_pos hfinished]
  · rename_i hfinished
    split
    · rename_i htick
      rw [work, if_neg hfinished, if_pos htick]
    · rename_i htick
      rw [Bool.not_eq_true] at hfinished htick
      exact work_cancelled policy sinks m w hfinished htick hcancelled

/-! ## Calls that wait for it -/

/-- What was taken for an entry is given back: its slot, its place in the registry, and its worker
is gone. -/
structure Released (m : Manager σ) (id : Nat) : Prop where
  unregistered : m.isRegistered id = false
  slot : ∀ s ∈ m.slots, s.entry ≠ id
  worker : ∀ w ∈ m.workers, w.id ≠ id
  balances : m.quota.Balances (m.slots.map Slot.caller)

theorem Gone.released (h : m.Gone id) (hledger : Ledger perCallerLimit globalLimit m) :
    m.Released id := by
  have hslot : ∀ s ∈ m.slots, s.entry ≠ id := by
    intro s hs heq
    obtain ⟨e, he, hid, -⟩ := hledger.entry_of_slot hs
    exact h.unregistered e he (hid.trans heq)
  refine ⟨?_, hslot, fun w hw => hslot w.slot (slot_mem_of_worker hw), hledger.balances⟩
  rw [isRegistered, List.any_eq_false]
  simpa using h.unregistered

/-- After any run who is told of a teardown finds all given back. -/
theorem Ledger.released_of_done (h : Ledger perCallerLimit globalLimit m) (hid : id ∈ m.done) :
    m.Released id := by
  refine Gone.released ⟨h.marked.done_lt id hid, fun e he heq => ?_⟩ h
  have hno := List.any_eq_false.mp (h.marked.gone id hid) e he
  exact hno (beq_iff_eq.mpr heq)

/-- A call that waits for entries to be gone does so until they are, or until it is given up. -/
theorem step_of_stopping (hm : m.Distinct) (hmarked : m.Marked) {entries : List Nat}
    (hstopping : m.call? call = some (.stopping entries)) (hstay : label ≠ .abandon call)
    (hstep : m.step policy sinks label = some r) :
    (r.1.call? call = some (.stopping entries) ∧ ∀ result, .returned call result ∉ r.2) ∨
      r.1.nextId = m.nextId ∧ r.1.registry = m.registry ∧
        ∀ id ∈ entries, m.isRegistered id = false := by
  by_cases hown : label.call? = some call
  · refine .inr ?_
    rcases step_of_waits hstopping rfl hown hstep with hgiven | ⟨-, hresume⟩
    · exact absurd hgiven hstay
    · rw [resume] at hresume
      split at hresume
      · rename_i hdone
        obtain rfl := Option.some.inj hresume
        exact ⟨rfl, rfl, (hmarked.all_done_iff hstopping).mp (by simpa using hdone)⟩
      · cases hresume
  · exact .inl ((step_acts hstep).stays hm hstopping rfl hown)

/-- As long as a call to stop is not given up, it has not returned, or what it waits for is gone. -/
theorem run_stopping (hledger : Ledger perCallerLimit globalLimit m) {entries : List Nat}
    (hstopping : m.call? call = some (.stopping entries)) (hid : id ∈ entries)
    (hpast : id < m.nextId) (hstay : .abandon call ∉ labels)
    (hrun : m.run policy sinks labels = some (m', occurred)) :
    (m'.call? call = some (.stopping entries) ∧ ∀ result, .returned call result ∉ occurred) ∨
      m'.Gone id := by
  let waits (m' : Manager σ) (occurred : List Occurrence) : Prop :=
    m'.call? call = some (.stopping entries) ∧ id < m'.nextId ∧
      ∀ result, .returned call result ∉ occurred
  have hinv : Ledger perCallerLimit globalLimit m' ∧ (waits m' occurred ∨ m'.Gone id) := by
    refine run_induction (motive := fun m occurred =>
      Ledger perCallerLimit globalLimit m ∧ (waits m occurred ∨ m.Gone id)) ?_
      ⟨hledger, .inl ⟨hstopping, hpast, fun _ => List.not_mem_nil⟩⟩ hrun
    rintro m before label m' occurred hlabel ⟨hm, hwaits | hgone⟩ hstep
    · have hact := step_acts hstep
      have hne : label ≠ .abandon call := fun heq => hstay (heq ▸ hlabel)
      refine ⟨step_ledger hm hstep, ?_⟩
      obtain ⟨hpending, hlt, hsilent⟩ := hwaits
      rcases step_of_stopping hm.distinct hm.marked hpending hne hstep with
        ⟨hstays, hnot⟩ | ⟨hnext, hregistry, hgone⟩
      · refine .inl ⟨hstays, Nat.lt_of_lt_of_le hlt hact.entry.1, fun result hmem => ?_⟩
        rcases List.mem_append.mp hmem with hmem | hmem
        · exact hsilent result hmem
        · exact hnot result hmem
      · have hnone := List.any_eq_false.mp (hgone id hid)
        exact .inr ⟨hnext ▸ hlt, fun e he => by simpa using hnone e (hregistry ▸ he)⟩
    · exact ⟨step_ledger hm hstep, .inr ((step_acts hstep).gone hgone)⟩
  rcases hinv.2 with ⟨hpending, -, hsilent⟩ | hgone
  · exact .inl ⟨hpending, hsilent⟩
  · exact .inr hgone

end Manager
end ProvisionWatch

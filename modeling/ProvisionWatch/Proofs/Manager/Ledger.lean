import Mathlib.Data.List.Count
import ProvisionWatch.Proofs.Manager.Changes
import ProvisionWatch.Proofs.Manager.DoneMarks
import ProvisionWatch.Proofs.Quota.Balance

/-!
# The ledger of a manager

Entries of the registry, slots of the quota, and those who hold them are kept in
three places.  In every state that a manager can reach they agree: each entry
has one slot and one holder, and the quota counts exactly the slots.

Main results:

- Theorem `step_ledger`: every step keeps the ledger.
- Theorem `run_accounts`: after any run the books of a manager agree, and who
  goes takes nothing along but what is his own.
-/

namespace ProvisionWatch

/-- The settings and rules that hold unless others are given, and every namespace may be read. -/
def Policy.standard : Policy :=
  { config := .standard, rules := Rule.standard, allowList := .all }

/-- A sink that takes whatever it is offered. -/
def SinkInterface.accepting : SinkInterface Unit :=
  { offer := fun _ _ _ _ => ((), none) }

/-- A deployment about which nothing is reported. -/
def Deployment.blank : Deployment :=
  { metadata := .blank, spec := .blank, status := none }

/-- The steps of a setup in which every collaborator answers. -/
def Label.setup (call : Nat) (request : SubscribeRequest) (d : Deployment)
    (listed : List Event) : List Label :=
  [ .subscribe call request, .fetched call (.ok (some d)), .watched call (.ok ()),
    .eventsWatched call (.ok ()), .listed call (.ok listed) ]

namespace Manager

variable {σ : Type} {policy : Policy} {sinks : SinkInterface σ}

/-- The entries of the registry, by number and target. -/
def keys (m : Manager σ) : List (Nat × Target) :=
  m.registry.map Entry.key

/-- Entries, slots and quota agree, and so do the marks of those that are torn down. -/
structure Ledger (perCallerLimit globalLimit : Nat) (m : Manager σ) : Prop where
  marked : m.Marked
  calls : (m.calls.map Prod.fst).Nodup
  ids : (m.keys.map Prod.fst).Nodup
  targets : (m.keys.map Prod.snd).Nodup
  ids_lt : ∀ k ∈ m.keys, k.1 < m.nextId
  owned : (m.slots.map Slot.key).Perm m.keys
  balances : m.quota.Balances (m.slots.map Slot.caller)
  perCaller : m.quota.perCallerLimit = perCallerLimit
  global : m.quota.globalLimit = globalLimit

variable {perCallerLimit globalLimit : Nat}

theorem Ledger.distinct {m : Manager σ} (h : Ledger perCallerLimit globalLimit m) :
    m.Distinct where
  calls := h.calls
  slots := by
    have hfst : m.slots.map Slot.entry = (m.slots.map Slot.key).map Prod.fst := by
      rw [List.map_map]
      rfl
    rw [hfst]
    exact (h.owned.map Prod.fst).nodup_iff.mpr h.ids

theorem ledger_start (now : Instant) (world : σ) (bound : Option Nat) :
    Ledger perCallerLimit globalLimit
      (Manager.start now world bound (Quota.new perCallerLimit globalLimit)) where
  marked := marked_start now world bound _
  calls := List.nodup_nil
  ids := List.nodup_nil
  targets := List.nodup_nil
  ids_lt := by simp [keys, start]
  owned := List.Perm.refl _
  balances := Quota.balances_new perCallerLimit globalLimit
  perCaller := rfl
  global := rfl

/-! ## What a change does to the ledger -/

/-- As long as entries, slots and quota stay, so does the ledger. -/
theorem Ledger.same {m m' : Manager σ} (h : Ledger perCallerLimit globalLimit m)
    (hmarked : m'.Marked) (hcalls : (m'.calls.map Prod.fst).Nodup) (hkeys : m'.keys = m.keys)
    (hnext : m'.nextId = m.nextId) (hquota : m'.quota = m.quota)
    (hslots : m'.slots.Perm m.slots) : Ledger perCallerLimit globalLimit m' where
  marked := hmarked
  calls := hcalls
  ids := by rw [hkeys]; exact h.ids
  targets := by rw [hkeys]; exact h.targets
  ids_lt := by rw [hkeys, hnext]; exact h.ids_lt
  owned := by rw [hkeys]; exact (hslots.map Slot.key).trans h.owned
  balances := by rw [hquota]; exact h.balances.perm (hslots.map Slot.caller)
  perCaller := by rw [hquota]; exact h.perCaller
  global := by rw [hquota]; exact h.global

/-- A slot that is taken for a free target is entered under the next number. -/
theorem Ledger.begin {m m' : Manager σ} (h : Ledger perCallerLimit globalLimit m)
    (hmarked : m'.Marked) (hcalls : (m'.calls.map Prod.fst).Nodup) {slot : Slot}
    (hfree : m.lookup? slot.target = none)
    (hentry : slot.entry = m.nextId) (hquota : m.quota.acquire slot.caller = .ok m'.quota)
    (hkeys : m'.keys = m.keys ++ [slot.key]) (hnext : m'.nextId = m.nextId + 1)
    (hslots : m'.slots.Perm (slot :: m.slots)) : Ledger perCallerLimit globalLimit m' := by
  have hnew : slot.target ∉ m.keys.map Prod.snd := by
    intro hmem
    obtain ⟨k, hk, htarget⟩ := List.mem_map.mp hmem
    obtain ⟨e, he, rfl⟩ := List.mem_map.mp hk
    have hnone := List.find?_eq_none.mp hfree e he
    exact hnone (beq_iff_eq.mpr htarget)
  have hid : slot.entry ∉ m.keys.map Prod.fst := by
    intro hmem
    obtain ⟨k, hk, hfst⟩ := List.mem_map.mp hmem
    have hlt := h.ids_lt k hk
    omega
  have hlimits : m'.quota.perCallerLimit = m.quota.perCallerLimit ∧
      m'.quota.globalLimit = m.quota.globalLimit := by
    obtain ⟨-, -, heq⟩ := Quota.acquire_eq_ok hquota
    rw [heq]
    exact ⟨rfl, rfl⟩
  refine ⟨hmarked, hcalls, ?_, ?_, ?_, ?_, ?_, hlimits.1.trans h.perCaller,
    hlimits.2.trans h.global⟩
  · rw [hkeys, List.map_append]
    exact List.nodup_append_comm.mp (List.nodup_cons.mpr ⟨hid, h.ids⟩)
  · rw [hkeys, List.map_append]
    exact List.nodup_append_comm.mp (List.nodup_cons.mpr ⟨hnew, h.targets⟩)
  · intro k hk
    rw [hkeys] at hk
    rw [hnext]
    rcases List.mem_append.mp hk with hk | hk
    · exact Nat.lt_succ_of_lt (h.ids_lt k hk)
    · rw [List.mem_singleton.mp hk]
      exact Nat.lt_succ_of_le (Nat.le_of_eq hentry)
  · rw [hkeys]
    exact ((hslots.map Slot.key).trans (h.owned.cons slot.key)).trans
      (List.perm_append_singleton slot.key m.keys).symm
  · exact (h.balances.acquire hquota).perm (hslots.map Slot.caller)

/-- A slot that is given back takes its own entry with it. -/
theorem Ledger.release {m m' : Manager σ} (h : Ledger perCallerLimit globalLimit m)
    (hmarked : m'.Marked) (hcalls : (m'.calls.map Prod.fst).Nodup) {slot : Slot}
    (hregistry : m'.registry = m.registry.filter fun e => e.id != slot.entry)
    (hnext : m'.nextId = m.nextId) (hquota : m'.quota = m.quota.release slot.caller)
    (hslots : m.slots.Perm (slot :: m'.slots)) : Ledger perCallerLimit globalLimit m' := by
  have hkeys : m'.keys = m.keys.filter fun k => k.1 != slot.entry := by
    rw [keys, hregistry, keys, List.filter_map]
    rfl
  have hsub : m'.keys.Sublist m.keys := by
    rw [hkeys]
    exact List.filter_sublist
  have hrest : ∀ s ∈ m'.slots, s.entry ≠ slot.entry := by
    have hnodup := (hslots.map Slot.entry).nodup_iff.mp h.distinct.slots
    rw [List.map_cons, List.nodup_cons] at hnodup
    intro s hs heq
    exact hnodup.1 (heq ▸ List.mem_map_of_mem hs)
  have howned : (m'.slots.map Slot.key).Perm m'.keys := by
    have hperm := ((hslots.symm.map Slot.key).trans h.owned).filter fun k => k.1 != slot.entry
    rw [List.map_cons, List.filter_cons_of_neg (by simp [Slot.key])] at hperm
    rw [List.filter_eq_self.mpr, ← hkeys] at hperm
    · exact hperm
    · intro k hk
      obtain ⟨s, hs, rfl⟩ := List.mem_map.mp hk
      simpa [Slot.key] using hrest s hs
  have hbalances : m'.quota.Balances (m'.slots.map Slot.caller) := by
    have hperm : (slot.caller :: m'.slots.map Slot.caller).Perm (m.slots.map Slot.caller) :=
      hslots.symm.map Slot.caller
    have hreleased := (h.balances.perm hperm).release List.mem_cons_self
    rw [List.erase_cons_head] at hreleased
    rw [hquota]
    exact hreleased
  refine ⟨hmarked, hcalls, h.ids.sublist (hsub.map Prod.fst),
    h.targets.sublist (hsub.map Prod.snd), ?_, howned, hbalances, ?_, ?_⟩
  · intro k hk
    rw [hnext]
    exact h.ids_lt k (hsub.subset hk)
  · rw [hquota]
    exact h.perCaller
  · rw [hquota]
    exact h.global

/-! ## Steps and runs -/

/-- Every step keeps the ledger. -/
theorem step_ledger {m : Manager σ} (h : Ledger perCallerLimit globalLimit m) {label : Label}
    {r : Stepped σ} (hstep : m.step policy sinks label = some r) :
    Ledger perCallerLimit globalLimit r.1 := by
  obtain ⟨hcalls, -, hchange⟩ := step_moves h.distinct hstep
  have hmarked := (step_acts hstep).marked h.marked
  cases hchange with
  | none keys nextId quota slots workers aside =>
      exact h.same hmarked hcalls keys nextId quota slots
  | begun slot free entry quota keys nextId slots workers aside =>
      exact h.begin hmarked hcalls free entry quota keys nextId slots
  | givenUp setup mem registry nextId quota slots workers aside =>
      exact h.release hmarked hcalls registry nextId quota slots
  | opened setup mem d listed hearsEvents opening opens w slot session finished registry nextId
      quota slots workers call occurred =>
      exact h.same hmarked hcalls (congrArg (List.map Entry.key) registry) nextId quota slots
  | turned w mem running signal inbox going registry nextId quota slots workers occurred =>
      exact h.same hmarked hcalls (congrArg (List.map Entry.key) registry) nextId quota
        (List.Perm.of_eq slots)
  | ended w mem ending said ends registry nextId quota slots workers occurred =>
      exact h.release hmarked hcalls registry nextId quota slots

/-- Every run keeps the ledger. -/
theorem Ledger.run {m m' : Manager σ} (h : Ledger perCallerLimit globalLimit m)
    {labels : List Label} {occurred : List Occurrence}
    (hrun : m.run policy sinks labels = some (m', occurred)) :
    Ledger perCallerLimit globalLimit m' := by
  refine run_induction (motive := fun m _ => Ledger perCallerLimit globalLimit m) ?_ h hrun
  intro m before label m' occurred _ hm hstep
  exact step_ledger hm hstep

/-- Every run from the start has its ledger in order. -/
theorem run_ledger {now : Instant} {world : σ} {bound : Option Nat} {labels : List Label}
    {m : Manager σ} {occurred : List Occurrence}
    (h : (Manager.start now world bound (Quota.new perCallerLimit globalLimit)).run policy sinks
      labels = some (m, occurred)) : Ledger perCallerLimit globalLimit m :=
  (ledger_start now world bound).run h

/-! ## One owner for each target -/

/-- The targets for which slots are held are those that are registered. -/
theorem Ledger.targets_perm {m : Manager σ} (h : Ledger perCallerLimit globalLimit m) :
    (m.slots.map Slot.target).Perm (m.registry.map Entry.target) := by
  have hperm := h.owned.map Prod.snd
  rw [keys, List.map_map, List.map_map] at hperm
  exact hperm

theorem Ledger.nodup_registry {m : Manager σ} (h : Ledger perCallerLimit globalLimit m) :
    (m.registry.map Entry.target).Nodup := by
  have hnodup := h.targets
  rw [keys, List.map_map] at hnodup
  exact hnodup

theorem mem_of_lookup? {m : Manager σ} {target : Target} {e : Entry}
    (h : m.lookup? target = some e) : e ∈ m.registry ∧ e.target = target := by
  have hfound := List.find?_some h
  exact ⟨List.mem_of_find?_eq_some h, beq_iff_eq.mp hfound⟩

/-- A registered entry is found under its target. -/
theorem Ledger.lookup?_eq {m : Manager σ} (h : Ledger perCallerLimit globalLimit m) {e : Entry}
    (he : e ∈ m.registry) : m.lookup? e.target = some e := by
  cases hfind : m.lookup? e.target with
  | none =>
      have hno := List.find?_eq_none.mp hfind e he
      simp at hno
  | some f =>
      obtain ⟨hf, htarget⟩ := mem_of_lookup? hfind
      rw [List.inj_on_of_nodup_map h.nodup_registry hf he htarget]

theorem Ledger.nodup_ids {m : Manager σ} (h : Ledger perCallerLimit globalLimit m) :
    (m.registry.map Entry.id).Nodup := by
  have hnodup := h.ids
  rw [keys, List.map_map] at hnodup
  exact hnodup

/-- Slots are held by setups and by workers, each for its target. -/
theorem targets_slots (m : Manager σ) :
    m.slots.map Slot.target =
      (m.setups.map fun s => s.request.target) ++ m.workers.map Worker.target := by
  rw [slots, List.map_append, List.map_map, List.map_map]
  rfl

theorem Ledger.nodup_targets {m : Manager σ} (h : Ledger perCallerLimit globalLimit m) :
    ((m.setups.map fun s => s.request.target) ++ m.workers.map Worker.target).Nodup := by
  rw [← targets_slots]
  exact h.targets_perm.nodup_iff.mpr h.nodup_registry

/-- Workers of one target are one worker. -/
theorem Ledger.worker_eq {m : Manager σ} (h : Ledger perCallerLimit globalLimit m) {v w : Worker}
    (hv : v ∈ m.workers) (hw : w ∈ m.workers) (htarget : v.target = w.target) : v = w :=
  List.inj_on_of_nodup_map (List.nodup_append.mp h.nodup_targets).2.1 hv hw htarget

/-- A target that is being set up has no worker. -/
theorem Ledger.target_ne_of_setup {m : Manager σ} (h : Ledger perCallerLimit globalLimit m)
    {setup : Setup} (hsetup : setup ∈ m.setups) {w : Worker} (hw : w ∈ m.workers) :
    w.target ≠ setup.request.target := by
  have hdisjoint := (List.nodup_append.mp h.nodup_targets).2.2
  intro heq
  exact hdisjoint _ (List.mem_map_of_mem hsetup) _ (List.mem_map_of_mem hw) heq.symm

/-- An entry stands for each worker. -/
theorem Ledger.key_of_worker {m : Manager σ} (h : Ledger perCallerLimit globalLimit m) {w : Worker}
    (hw : w ∈ m.workers) : (w.id, w.target) ∈ m.keys := by
  have hslot : w.slot ∈ m.slots := List.mem_append_right _ (List.mem_map_of_mem hw)
  exact h.owned.mem_iff.mp (List.mem_map_of_mem hslot)

/-- Numbers of workers were given before. -/
theorem Ledger.ids_lt_of_worker {m : Manager σ} (h : Ledger perCallerLimit globalLimit m)
    {w : Worker} (hw : w ∈ m.workers) : w.id < m.nextId :=
  h.ids_lt _ (h.key_of_worker hw)

/-! ## The books of a manager -/

/-- The caller whose slot stands for an entry. -/
def holder? (m : Manager σ) (e : Entry) : Option String :=
  (m.slots.find? fun s => s.entry == e.id).map Slot.caller

/-- The books agree: registered targets and taken slots correspond one to one, the quota counts
them within its limits, in total and for each caller, and each target has one owner, either a
setup in progress or a worker. -/
structure Accounted (perCallerLimit globalLimit : Nat) (m : Manager σ) : Prop where
  targets_nodup : (m.registry.map Entry.target).Nodup
  bijection : (m.registry.map Entry.key).Perm (m.slots.map Slot.key)
  inUse_eq : m.quota.inUse = m.registry.length
  heldBy_eq : ∀ caller, m.quota.heldBy caller = (m.registry.map m.holder?).count (some caller)
  inUse_le : m.quota.inUse ≤ globalLimit
  heldBy_le : ∀ caller, m.quota.heldBy caller ≤ perCallerLimit
  one_owner : ∀ e ∈ m.registry,
    (m.setups.map fun s => s.request.target).count e.target +
      (m.workers.map Worker.target).count e.target = 1

/-- The slot of an entry is told by its number. -/
theorem Distinct.find?_slot {m : Manager σ} (hm : m.Distinct) {s : Slot} (hs : s ∈ m.slots) :
    m.slots.find? (fun t => t.entry == s.entry) = some s := by
  cases hfind : m.slots.find? fun t => t.entry == s.entry with
  | none =>
      have hno := List.find?_eq_none.mp hfind s hs
      simp at hno
  | some t =>
      have ht := List.mem_of_find?_eq_some hfind
      have heq := List.find?_some hfind
      rw [List.inj_on_of_nodup_map hm.slots ht hs (beq_iff_eq.mp heq)]

/-- The callers for which entries stand are those that hold slots. -/
theorem Ledger.holders_perm {m : Manager σ} (h : Ledger perCallerLimit globalLimit m) :
    (m.registry.map m.holder?).Perm ((m.slots.map Slot.caller).map some) := by
  let holderOf : Nat × Target → Option String :=
    fun k => (m.slots.find? fun s => s.entry == k.1).map Slot.caller
  have hentries : m.registry.map m.holder? = m.keys.map holderOf := by
    rw [keys, List.map_map]
    rfl
  have hslots : (m.slots.map Slot.key).map holderOf = (m.slots.map Slot.caller).map some := by
    rw [List.map_map, List.map_map]
    refine List.map_congr_left fun s hs => ?_
    have hfind := h.distinct.find?_slot hs
    simp only [Function.comp_apply, holderOf, Slot.key, hfind, Option.map_some]
  rw [hentries, ← hslots]
  exact (h.owned.map holderOf).symm

/-- A ledger in order means books that agree. -/
theorem Ledger.accounted {m : Manager σ} (h : Ledger perCallerLimit globalLimit m) :
    Accounted perCallerLimit globalLimit m := by
  refine ⟨h.nodup_registry, h.owned.symm, ?_, ?_, ?_, ?_, ?_⟩
  · have hlength := h.owned.length_eq
    rw [List.length_map, keys, List.length_map] at hlength
    rw [h.balances.inUse_eq, List.length_map, hlength]
  · intro caller
    rw [h.balances.heldBy_eq, h.holders_perm.count_eq]
    exact (List.count_map_of_injective _ some (fun _ _ => Option.some.inj) caller).symm
  · rw [← h.global]
    exact h.balances.inUse_le
  · intro caller
    rw [← h.perCaller]
    exact h.balances.heldBy_le caller
  · intro e he
    rw [← List.count_append, ← targets_slots, h.targets_perm.count_eq]
    exact List.count_eq_one_of_mem h.nodup_registry (List.mem_map_of_mem he)

/-! ## What a step takes and gives back -/

/-- Whoever goes in a step takes exactly his own entry along. -/
theorem Change.registry_of_gone {m : Manager σ} {r : Stepped σ} (h : Change policy sinks m r)
    {s : Slot} (hs : s ∈ m.slots) (hgone : s ∉ r.1.slots) :
    r.1.registry = m.registry.filter fun e => e.id != s.entry := by
  cases h with
  | none keys nextId quota slots workers aside => exact absurd (slots.mem_iff.mpr hs) hgone
  | begun slot free entry quota keys nextId slots workers aside =>
      exact absurd (slots.mem_iff.mpr (List.mem_cons_of_mem _ hs)) hgone
  | givenUp setup mem registry nextId quota slots workers aside =>
      rcases List.mem_cons.mp (slots.mem_iff.mp hs) with rfl | hstays
      · exact registry
      · exact absurd hstays hgone
  | opened setup mem d listed hearsEvents opening opens w slot session finished registry nextId
      quota slots workers call occurred =>
      exact absurd (slots.mem_iff.mpr hs) hgone
  | turned w mem running signal inbox going registry nextId quota slots workers occurred =>
      exact absurd (slots ▸ hs) hgone
  | ended w mem ending said ends registry nextId quota slots workers occurred =>
      rcases List.mem_cons.mp (slots.mem_iff.mp hs) with rfl | hstays
      · exact registry
      · exact absurd hstays hgone

/-- A slot that is new after a step was taken from the quota in that step, for its caller. -/
theorem Change.acquire_of_new {m : Manager σ} {r : Stepped σ} (h : Change policy sinks m r)
    {s : Slot} (hs : s ∈ r.1.slots) (hnew : s ∉ m.slots) :
    m.quota.acquire s.caller = .ok r.1.quota := by
  cases h with
  | none keys nextId quota slots workers aside => exact absurd (slots.mem_iff.mp hs) hnew
  | begun slot free entry quota keys nextId slots workers aside =>
      rcases List.mem_cons.mp (slots.mem_iff.mp hs) with rfl | hold
      · exact quota
      · exact absurd hold hnew
  | givenUp setup mem registry nextId quota slots workers aside =>
      exact absurd (slots.mem_iff.mpr (List.mem_cons_of_mem _ hs)) hnew
  | opened setup mem d listed hearsEvents opening opens w slot session finished registry nextId
      quota slots workers call occurred =>
      exact absurd (slots.mem_iff.mp hs) hnew
  | turned w mem running signal inbox going registry nextId quota slots workers occurred =>
      exact absurd (slots ▸ hs) hnew
  | ended w mem ending said ends registry nextId quota slots workers occurred =>
      exact absurd (slots.mem_iff.mpr (List.mem_cons_of_mem _ hs)) hnew

/-- The teardown of one entry leaves a target to the entry it has under another number. -/
theorem lookup?_unregister_of_ne (m : Manager σ) {id : Nat} (caller : String) {target : Target}
    {e : Entry} (h : m.lookup? target = some e) (hne : e.id ≠ id) :
    (m.unregister id caller).lookup? target = some e := by
  unfold lookup? at h ⊢
  obtain ⟨htarget, before, after, hsplit, hbefore⟩ := List.find?_eq_some_iff_append.mp h
  refine List.find?_eq_some_iff_append.mpr
    ⟨htarget, before.filter (fun e => e.id != id), after.filter (fun e => e.id != id), ?_, ?_⟩
  · simp [hsplit, hne]
  · intro f hf
    exact hbefore f (List.mem_filter.mp hf).1

/-- After any run of calls, answers, inputs and turns of workers the books agree; a step that ends
a setup or a worker removes the entry of its own number and no other, also where its target is
registered anew; and a slot is only ever taken from the quota of its own caller. -/
theorem run_accounts {now : Instant} {world : σ} {bound : Option Nat} {labels : List Label}
    {m : Manager σ} {occurred : List Occurrence}
    (h : (Manager.start now world bound (Quota.new perCallerLimit globalLimit)).run policy sinks
      labels = some (m, occurred)) :
    Accounted perCallerLimit globalLimit m ∧
      (∀ label m' more, m.step policy sinks label = some (m', more) →
        (∀ s ∈ m.slots, s ∉ m'.slots →
          m'.registry = m.registry.filter fun e => e.id != s.entry) ∧
        ∀ s ∈ m'.slots, s ∉ m.slots → m.quota.acquire s.caller = .ok m'.quota) ∧
      ∀ id caller target e, m.lookup? target = some e → e.id ≠ id →
        (m.unregister id caller).lookup? target = some e := by
  have hledger := run_ledger h
  refine ⟨hledger.accounted, ?_, ?_⟩
  · intro label m' more hstep
    have hchange := (step_moves hledger.distinct hstep).change
    exact ⟨fun s hs hgone => hchange.registry_of_gone hs hgone,
      fun s hs hnew => hchange.acquire_of_new hs hnew⟩
  · intro id caller target e hlookup hne
    exact lookup?_unregister_of_ne m caller hlookup hne

/-- A target that failed for one caller is registered anew for another one; a third caller waits
for it.  A late teardown of the first entry would not touch the second. -/
theorem run_accounts_registered_anew :
    ∃ m occurred,
      (Manager.start default () none (Quota.new 10 100)).run Policy.standard .accepting
        [ .bind 0, .subscribe 1 ⟨"ann", ⟨"ns", "a"⟩, none⟩, .fetched 1 (.ok none),
          .subscribe 2 ⟨"bob", ⟨"ns", "a"⟩, none⟩, .subscribe 3 ⟨"ann", ⟨"ns", "a"⟩, none⟩,
          .subscribe 4 ⟨"bob", ⟨"ns", "b"⟩, none⟩ ] = some (m, occurred) ∧
      m.quota.inUse = 2 ∧ Accounted 10 100 m ∧
      (m.unregister 1 "ann").lookup? ⟨"ns", "a"⟩ = some ⟨2, ⟨"ns", "a"⟩, false⟩ := by
  let labels : List Label :=
    [ .bind 0, .subscribe 1 ⟨"ann", ⟨"ns", "a"⟩, none⟩, .fetched 1 (.ok none),
      .subscribe 2 ⟨"bob", ⟨"ns", "a"⟩, none⟩, .subscribe 3 ⟨"ann", ⟨"ns", "a"⟩, none⟩,
      .subscribe 4 ⟨"bob", ⟨"ns", "b"⟩, none⟩ ]
  have hends : ((Manager.start default () none (Quota.new 10 100)).run Policy.standard .accepting
      labels).map (fun r => (r.1.quota.inUse, r.1.lookup? ⟨"ns", "a"⟩)) =
      some (2, some ⟨2, ⟨"ns", "a"⟩, false⟩) := by
    decide +kernel
  obtain ⟨⟨m, occurred⟩, hrun, hread⟩ := Option.map_eq_some_iff.mp hends
  obtain ⟨huse, hlookup⟩ := Prod.mk.inj hread
  obtain ⟨haccounted, -, hteardown⟩ := run_accounts hrun
  exact ⟨m, occurred, hrun, huse, haccounted, hteardown 1 "ann" _ _ hlookup (by decide)⟩

end Manager
end ProvisionWatch

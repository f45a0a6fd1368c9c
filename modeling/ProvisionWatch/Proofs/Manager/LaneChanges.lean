import Mathlib.Data.List.Find
import ProvisionWatch.Proofs.Manager.Lane

/-!
# What happens to a target

What changes a manager changes the lane of one target, and touches nothing of the
others.  For each change there are two lemmas here: what it does to the lane of
its target, and that it lets another target be.

Main results:

- Theorem `SameFor.lane_eq`: where nothing happens to a target its lane stays as
  it is.
- Theorems `lane_register`, `lane_unregister`, `lane_cancelWhere`,
  `lane_announce`, `lane_updateWorker` and `lane_dropWorker`: what is done to a
  target is done to its lane.
-/

namespace ProvisionWatch
namespace Manager

variable {σ : Type} {perCallerLimit globalLimit : Nat} {target : Target} {calls : List Nat}
variable {m m' : Manager σ} {call : Nat}

/-! ## Lists -/

/-- Among what is kept by a test, the first is found that would be found without it. -/
theorem find?_filter_of_imp {α : Type} {p q : α → Bool} {l : List α}
    (h : ∀ a ∈ l, q a = true → p a = true) : (l.filter p).find? q = l.find? q := by
  rw [List.find?_filter]
  refine List.find?_congr fun a ha => ?_
  cases hq : q a with
  | false => simp
  | true => simp [h a ha hq]

/-- Where a change leaves alone what is looked for, it changes what is found. -/
theorem find?_map_of_same {α : Type} {f : α → α} {q : α → Bool} {l : List α}
    (h : ∀ a ∈ l, q (f a) = q a) : (l.map f).find? q = (l.find? q).map f := by
  rw [List.find?_map]
  exact congrArg (Option.map f) (List.find?_congr h)

theorem any_congr_of_mem {α : Type} {p q : α → Bool} {l : List α} (h : ∀ a ∈ l, p a = q a) :
    l.any p = l.any q := by
  rw [Bool.eq_iff_iff, List.any_eq_true, List.any_eq_true]
  exact exists_congr fun a => and_congr_right fun ha => by rw [h a ha]

/-! ## Lanes that agree -/

theorem Apart.mem_calls (h : Apart target calls m) (hledger : Ledger perCallerLimit globalLimit m)
    {c : Nat × PendingCall} (hc : c ∈ m.calls) (hown : c.1 ∈ calls) : m.IsAbout target c.2 :=
  h.own c.1 hown c.2 (lookup_of_mem hledger.calls hc)

theorem Apart.target?_ne (h : Apart target calls m)
    (hledger : Ledger perCallerLimit globalLimit m) {c : Nat × PendingCall} (hc : c ∈ m.calls)
    (hother : c.1 ∉ calls) : c.2.target? ≠ some target :=
  h.others c.1 hother c.2 (lookup_of_mem hledger.calls hc)

/-- As long as nothing happens to the entries of its target, a call is kept as before. -/
theorem laneCall_of_same
    (hannounced : ∀ id, m.StandsFor target id →
      m'.announced.contains id = m.announced.contains id)
    (hregistered : ∀ id, m.StandsFor target id → m'.isRegistered id = m.isRegistered id)
    {p : PendingCall} (hp : m.IsAbout target p) : m'.laneCall p = m.laneCall p := by
  cases p with
  | waiting entry request sink =>
      rw [laneCall, laneCall, hannounced entry hp.2, hregistered entry hp.2]
  | stopping entries =>
      have hany : entries.any m'.isRegistered = entries.any m.isRegistered :=
        any_congr_of_mem fun id hid => hregistered id (hp id hid)
      rw [laneCall, laneCall, hany]
  | settingUp | reading => rfl

/-- The entry of the target is removed. -/
theorem laneCall_vacated
    (hgone : ∀ id, m.StandsFor target id → m'.isRegistered id = false)
    (hannounced : ∀ id, m.StandsFor target id →
      m'.announced.contains id = m.announced.contains id)
    {p : PendingCall} (hp : m.IsAbout target p) : m'.laneCall p = (m.laneCall p).vacated := by
  cases p with
  | waiting entry request sink =>
      rw [laneCall, laneCall, LaneCall.vacated, hannounced entry hp.2, hgone entry hp.2]
  | stopping entries =>
      rw [laneCall, laneCall, LaneCall.vacated,
        List.any_eq_false.mpr fun id hid => by simp [hgone id (hp id hid)]]
  | settingUp | reading => rfl

/-- The setup of the target comes to its first update. -/
theorem laneCall_announced
    (hannounced : ∀ id, m.StandsFor target id →
      m'.announced.contains id = (m.announced.contains id || m.isRegistered id))
    (hregistered : ∀ id, m.StandsFor target id → m'.isRegistered id = m.isRegistered id)
    {p : PendingCall} (hp : m.IsAbout target p) : m'.laneCall p = (m.laneCall p).announced := by
  cases p with
  | waiting entry request sink =>
      rw [laneCall, laneCall, LaneCall.announced, hannounced entry hp.2, hregistered entry hp.2]
  | stopping entries =>
      have hany : entries.any m'.isRegistered = entries.any m.isRegistered :=
        any_congr_of_mem fun id hid => hregistered id (hp id hid)
      rw [laneCall, laneCall, LaneCall.announced, hany]
  | settingUp | reading => rfl

/-- Where the same calls about a target are kept, their lane changes as they do. -/
theorem lane_calls_eq (hapart : Apart target calls m)
    (hledger : Ledger perCallerLimit globalLimit m)
    (hcalls : m'.callsAmong calls = m.callsAmong calls)
    {f : LaneCall → LaneCall} (hf : ∀ p, m.IsAbout target p → m'.laneCall p = f (m.laneCall p)) :
    (m'.lane target calls).calls = (m.lane target calls).calls.map fun c => (c.1, f c.2) := by
  rw [lane, lane, hcalls, List.map_map]
  refine List.map_congr_left fun c hc => ?_
  obtain ⟨hmem, hown⟩ := List.mem_filter.mp hc
  have habout := hapart.mem_calls hledger hmem (List.contains_iff_mem.mp hown)
  rw [hf c.2 habout]
  rfl

theorem lane_calls_of_same (hapart : Apart target calls m)
    (hledger : Ledger perCallerLimit globalLimit m)
    (hcalls : m'.callsAmong calls = m.callsAmong calls)
    (hannounced : ∀ id, m.StandsFor target id →
      m'.announced.contains id = m.announced.contains id)
    (hregistered : ∀ id, m.StandsFor target id → m'.isRegistered id = m.isRegistered id) :
    (m'.lane target calls).calls = (m.lane target calls).calls := by
  have hsame := lane_calls_eq (f := id) hapart hledger hcalls
    fun _ habout => laneCall_of_same hannounced hregistered habout
  rwa [show (fun c : Nat × LaneCall => (c.1, id c.2)) = id from rfl, List.map_id] at hsame

/-- Nothing happens to a target, its entry, its worker and the calls about it. -/
structure SameFor (target : Target) (calls : List Nat) (m m' : Manager σ) : Prop where
  now : m'.now = m.now
  bound : m'.bound = m.bound
  lookup : m'.lookup? target = m.lookup? target
  worker : m'.worker? target = m.worker? target
  calls : m'.callsAmong calls = m.callsAmong calls
  announced : ∀ id, m.StandsFor target id → m'.announced.contains id = m.announced.contains id
  registered : ∀ id, m.StandsFor target id → m'.isRegistered id = m.isRegistered id

theorem SameFor.lane_eq (h : SameFor target calls m m') (hapart : Apart target calls m)
    (hledger : Ledger perCallerLimit globalLimit m) :
    m'.lane target calls = m.lane target calls := by
  have hentry : (m'.lookup? target).map (fun e =>
      ({ cancelled := e.cancelled, announced := m'.announced.contains e.id } : LaneEntry)) =
      (m.lookup? target).map fun e =>
        { cancelled := e.cancelled, announced := m.announced.contains e.id } := by
    rw [h.lookup]
    refine Option.map_congr fun e he => ?_
    obtain ⟨hmem, htarget⟩ := mem_of_lookup? he
    rw [h.announced e.id (htarget ▸ hledger.standsFor hmem)]
  have hcalls := lane_calls_of_same hapart hledger h.calls h.announced h.registered
  exact Lane.ext h.now h.bound hentry hcalls (congrArg (Option.map Worker.unnumbered) h.worker)

theorem SameFor.refl (target : Target) (calls : List Nat) (m : Manager σ) :
    SameFor target calls m m :=
  ⟨rfl, rfl, rfl, rfl, rfl, fun _ _ => rfl, fun _ _ => rfl⟩

/-- A call about another target is kept elsewhere. -/
theorem SameFor.keepCall (h : SameFor target calls m m') (hother : call ∉ calls)
    (p : PendingCall) : SameFor target calls m (m'.keepCall call p) :=
  { h with calls := (m'.callsAmong_keepCall_of_not_mem hother p).trans h.calls }

theorem SameFor.dropCall (h : SameFor target calls m m') (hother : call ∉ calls) :
    SameFor target calls m (m'.dropCall call) :=
  { h with calls := (m'.callsAmong_dropCall_of_not_mem hother).trans h.calls }

/-! ## Entries -/

/-- A number that stands for a target is registered if it is that of its entry. -/
theorem Ledger.isRegistered_iff (h : Ledger perCallerLimit globalLimit m) {id : Nat}
    (hstands : m.StandsFor target id) {e : Entry} (he : m.lookup? target = some e) :
    m.isRegistered id = true ↔ id = e.id := by
  constructor
  · intro hregistered
    obtain ⟨f, hf, hid⟩ := List.any_eq_true.mp hregistered
    have hfid : f.id = id := beq_iff_eq.mp hid
    have hfound := h.lookup?_eq hf
    rw [hstands.target_eq f hf hfid, he] at hfound
    obtain rfl := Option.some.inj hfound
    exact hfid.symm
  · rintro rfl
    exact List.any_eq_true.mpr ⟨e, (mem_of_lookup? he).1, beq_self_eq_true _⟩

/-- Who is registered anew gets a number that stands for nobody yet. -/
theorem isRegistered_register (m : Manager σ) (quota : Quota) (place : Target) {id : Nat}
    (hpast : id < m.nextId) :
    (({ m with quota := quota } : Manager σ).register place).isRegistered id =
      m.isRegistered id := by
  have hne : (m.nextId == id) = false := by simpa using Nat.ne_of_gt hpast
  simp [isRegistered, register, hne]

/-- The target is registered anew. -/
theorem lane_register (hapart : Apart target calls m)
    (hledger : Ledger perCallerLimit globalLimit m) (hfree : m.lookup? target = none)
    (quota : Quota) :
    (({ m with quota := quota } : Manager σ).register target).lane target calls =
      (m.lane target calls).occupy := by
  have hnew : m.announced.contains m.nextId = false := by
    rw [← Bool.not_eq_true, List.contains_iff_mem]
    intro hmem
    exact Nat.lt_irrefl _ (hapart.announced_lt _ hmem)
  have hentry := lookup?_register { m with quota := quota } target hfree
  refine Lane.ext rfl rfl ?_ ?_ rfl
  · rw [entry_lane hentry]
    exact congrArg (fun b => some ({ cancelled := false, announced := b } : LaneEntry)) hnew
  · exact lane_calls_of_same hapart hledger rfl (fun _ _ => rfl)
      fun id hstands => m.isRegistered_register quota target hstands.past

theorem sameFor_register (m : Manager σ) (quota : Quota) {place : Target}
    (hother : place ≠ target) :
    SameFor target calls m (({ m with quota := quota } : Manager σ).register place) where
  now := rfl
  bound := rfl
  lookup := by
    simp [lookup?, register, List.find?_append, hother]
  worker := rfl
  calls := rfl
  announced _ _ := rfl
  registered id hstands := m.isRegistered_register quota place hstands.past

/-- The entry of the target is removed. -/
theorem lane_unregister (hapart : Apart target calls m)
    (hledger : Ledger perCallerLimit globalLimit m) {e : Entry} (he : m.lookup? target = some e)
    {id : Nat} (hid : e.id = id) (caller : String) :
    (m.unregister id caller).lane target calls = (m.lane target calls).vacate := by
  subst hid
  have hfree : (m.unregister e.id caller).lookup? target = none := by
    refine lookup?_unregister m e.id caller target fun f hf htarget => ?_
    have hfound := hledger.lookup?_eq hf
    rw [htarget, he] at hfound
    rw [Option.some.inj hfound]
  have hgone :
      ∀ id, m.StandsFor target id → (m.unregister e.id caller).isRegistered id = false := by
    intro id hstands
    rw [isRegistered, List.any_eq_false]
    intro f hf
    obtain ⟨hf, hne⟩ := List.mem_filter.mp hf
    simp only [bne_iff_ne, ne_eq] at hne
    intro hid
    have hregistered : m.isRegistered id = true := List.any_eq_true.mpr ⟨f, hf, hid⟩
    exact hne ((beq_iff_eq.mp hid).trans ((hledger.isRegistered_iff hstands he).mp hregistered))
  refine Lane.ext rfl rfl ?_ ?_ rfl
  · exact entry_lane_of_free hfree
  · refine lane_calls_eq (f := LaneCall.vacated) hapart hledger ?_ fun _ habout => ?_
    · rfl
    · exact laneCall_vacated hgone (fun _ _ => rfl) habout

theorem sameFor_unregister (hledger : Ledger perCallerLimit globalLimit m) {e : Entry}
    (he : e ∈ m.registry) {id : Nat} (hid : e.id = id) (hother : e.target ≠ target)
    (caller : String) : SameFor target calls m (m.unregister id caller) where
  now := rfl
  bound := rfl
  lookup := by
    refine find?_filter_of_imp fun f hf htarget => ?_
    rw [bne_iff_ne]
    intro hfid
    obtain rfl := List.inj_on_of_nodup_map hledger.nodup_ids hf he (hfid.trans hid.symm)
    exact hother (beq_iff_eq.mp htarget)
  worker := rfl
  calls := rfl
  announced _ _ := rfl
  registered other hstands := by
    rw [isRegistered, isRegistered, Bool.eq_iff_iff, List.any_eq_true, List.any_eq_true]
    refine exists_congr fun f => and_congr_left fun hfound => ?_
    have hne : f.id ≠ id := by
      intro hfid
      exact hother (hstands.target_eq e he (hid.trans (hfid.symm.trans (beq_iff_eq.mp hfound))))
    simp [hne]

/-- Being told to stop does not change what an entry is found by. -/
@[simp]
theorem lookup?_cancelWhere (m : Manager σ) (test : Entry → Bool) (target : Target) :
    (m.cancelWhere test).lookup? target =
      (m.lookup? target).map fun e => if test e then { e with cancelled := true } else e := by
  refine find?_map_of_same fun e _ => ?_
  split <;> rfl

/-- The entry of the target is told to stop. -/
theorem lane_cancelWhere (m : Manager σ) {test : Entry → Bool}
    (htest : ∀ e ∈ m.registry, e.target = target → test e = true) :
    (m.cancelWhere test).lane target calls = (m.lane target calls).cancel := by
  refine Lane.ext rfl rfl ?_ ?_ rfl
  · rw [Lane.cancel, lane, lane, lookup?_cancelWhere, Option.map_map, Option.map_map]
    refine Option.map_congr fun e he => ?_
    obtain ⟨hmem, htarget⟩ := mem_of_lookup? he
    rw [Function.comp_apply, if_pos (htest e hmem htarget)]
    rfl
  · refine List.map_congr_left fun c _ => ?_
    have hcall : (m.cancelWhere test).laneCall c.2 = m.laneCall c.2 := by
      cases c.2 with
      | waiting entry request sink =>
          rw [laneCall, laneCall, isRegistered_cancelWhere]
          rfl
      | stopping entries => rw [laneCall, laneCall, isRegistered_cancelWhere]
      | settingUp | reading => rfl
    rw [hcall]

theorem sameFor_cancelWhere (m : Manager σ) {test : Entry → Bool}
    (htest : ∀ e ∈ m.registry, e.target = target → test e = false) :
    SameFor target calls m (m.cancelWhere test) where
  now := rfl
  bound := rfl
  lookup := by
    rw [lookup?_cancelWhere]
    refine (Option.map_congr fun e he => ?_).trans Option.map_id'
    obtain ⟨hmem, htarget⟩ := mem_of_lookup? he
    rw [if_neg (by simp [htest e hmem htarget])]
  worker := rfl
  calls := rfl
  announced _ _ := rfl
  registered id _ := congrFun (m.isRegistered_cancelWhere test) id

/-! ## Workers -/

/-- A worker is kept in the place of one with the same slot. -/
theorem worker?_updateWorker (hm : m.Distinct) {v w : Worker} (hv : v ∈ m.workers)
    (hslot : w.slot = v.slot) (target : Target) :
    (m.updateWorker w).worker? target =
      (m.worker? target).map fun u => if u.id == w.id then w else u := by
  refine find?_map_of_same fun u hu => ?_
  split
  · rename_i hid
    have hsame : u = v := hm.worker_eq hu hv ((beq_iff_eq.mp hid).trans (congrArg Slot.entry hslot))
    rw [hsame, show w.target = v.target from congrArg Slot.target hslot]
  · rfl

theorem lane_updateWorker (hm : m.Distinct) {v w : Worker} (hv : m.worker? target = some v)
    (hslot : w.slot = v.slot) :
    (m.updateWorker w).lane target calls =
      { m.lane target calls with worker := some w.unnumbered } := by
  refine Lane.ext rfl rfl rfl rfl ?_
  have hid : v.id = w.id := (congrArg Slot.entry hslot).symm
  rw [lane, worker?_updateWorker hm (mem_of_worker? hv) hslot, hv]
  simp [hid]

theorem sameFor_updateWorker (hm : m.Distinct) {v w : Worker} (hv : v ∈ m.workers)
    (hslot : w.slot = v.slot) (hother : v.target ≠ target) :
    SameFor target calls m (m.updateWorker w) where
  now := rfl
  bound := rfl
  lookup := rfl
  worker := by
    rw [worker?_updateWorker hm hv hslot]
    refine (Option.map_congr fun u hu => ?_).trans Option.map_id'
    split
    · rename_i hid
      have hsame : u = v := hm.worker_eq (mem_of_worker? hu) hv
        ((beq_iff_eq.mp hid).trans (congrArg Slot.entry hslot))
      exact absurd (hsame ▸ target_of_worker? hu) hother
    · rfl
  calls := rfl
  announced _ _ := rfl
  registered _ _ := rfl

/-- The worker of the target goes, and its entry with it. -/
theorem lane_dropWorker (hapart : Apart target calls m)
    (hledger : Ledger perCallerLimit globalLimit m) {w : Worker} (hw : m.worker? target = some w)
    (world : σ) :
    ({ ({ m with sinks := world } : Manager σ).unregister w.id w.caller with
        workers := m.workers.filter fun v => v.id != w.id } : Manager σ).lane target calls =
      { (m.lane target calls).vacate with worker := none } := by
  obtain ⟨e, he, hid⟩ := hledger.lookup?_of_slot (slot_mem_of_worker (mem_of_worker? hw))
  rw [show w.slot.target = target from target_of_worker? hw] at he
  have hnone : (m.workers.filter fun v => v.id != w.id).find? (fun v => v.target == target) =
      none := by
    rw [List.find?_eq_none]
    intro v hv htarget
    obtain ⟨hv, hne⟩ := List.mem_filter.mp hv
    have hsame : v = w := hledger.worker_eq hv (mem_of_worker? hw)
      ((beq_iff_eq.mp htarget).trans (target_of_worker? hw).symm)
    simp [hsame] at hne
  have hvacated : (m.unregister w.id w.caller).lane target calls = (m.lane target calls).vacate :=
    lane_unregister hapart hledger he hid w.caller
  calc ({ ({ m with sinks := world } : Manager σ).unregister w.id w.caller with
          workers := m.workers.filter fun v => v.id != w.id } : Manager σ).lane target calls
      = { (m.unregister w.id w.caller).lane target calls with
          worker := ((m.workers.filter fun v => v.id != w.id).find?
            fun v => v.target == target).map Worker.unnumbered } := rfl
    _ = { (m.lane target calls).vacate with worker := none } := by
        rw [hvacated, hnone]
        rfl

theorem sameFor_dropWorker (hledger : Ledger perCallerLimit globalLimit m) {w : Worker}
    (hw : w ∈ m.workers) (hother : w.target ≠ target) (world : σ) :
    SameFor target calls m
      { ({ m with sinks := world } : Manager σ).unregister w.id w.caller with
        workers := m.workers.filter fun v => v.id != w.id } := by
  obtain ⟨e, he, hid, htarget⟩ := hledger.entry_of_slot (slot_mem_of_worker hw)
  have hsame : SameFor target calls m (m.unregister w.id w.caller) :=
    sameFor_unregister hledger he hid (by rwa [htarget]) w.caller
  refine ⟨rfl, rfl, hsame.lookup, ?_, rfl, hsame.announced, hsame.registered⟩
  refine find?_filter_of_imp fun v hv hfound => ?_
  rw [bne_iff_ne]
  intro hvw
  rw [hledger.distinct.worker_eq hv hw hvw] at hfound
  exact hother (beq_iff_eq.mp hfound)

/-! ## First updates -/

/-- The setup of the target comes to its first update. -/
theorem lane_announce (hapart : Apart target calls m)
    (hledger : Ledger perCallerLimit globalLimit m) {e : Entry} (he : m.lookup? target = some e)
    {id : Nat} (hid : e.id = id) (world : σ) {w : Worker} (hw : w.target = target)
    (hnone : m.worker? target = none) :
    ({ m with
        sinks := world
        announced := m.announced ++ [id]
        workers := m.workers ++ [w] } : Manager σ).lane target calls =
      { (m.lane target calls).announce with worker := some w.unnumbered } := by
  subst hid
  have hannounced : ∀ id, m.StandsFor target id →
      (m.announced ++ [e.id]).contains id = (m.announced.contains id || m.isRegistered id) := by
    intro id hstands
    rw [Bool.eq_iff_iff, Bool.or_eq_true, hledger.isRegistered_iff hstands he]
    simp
  have hworker : (m.workers ++ [w]).find? (fun v => v.target == target) = some w := by
    rw [List.find?_append, show (m.workers.find? fun v => v.target == target) = none from hnone]
    simp [hw]
  refine Lane.ext rfl rfl ?_ ?_ (congrArg (Option.map Worker.unnumbered) hworker)
  · have hentry : (m.lookup? target).map (fun f =>
        ({ cancelled := f.cancelled, announced := (m.announced ++ [e.id]).contains f.id } :
          LaneEntry)) = some { cancelled := e.cancelled, announced := true } := by
      simp [he]
    refine hentry.trans ?_
    rw [Lane.announce, entry_lane he]
    rfl
  · refine lane_calls_eq (f := LaneCall.announced) hapart hledger ?_ fun p habout => ?_
    · rfl
    · refine laneCall_announced hannounced ?_ habout
      exact fun _ _ => rfl

theorem sameFor_announce {e : Entry} (he : e ∈ m.registry) {id : Nat} (hid : e.id = id)
    (hother : e.target ≠ target) (world : σ) {w : Worker} (hw : w.target ≠ target) :
    SameFor target calls m
      { m with
        sinks := world
        announced := m.announced ++ [id]
        workers := m.workers ++ [w] } where
  now := rfl
  bound := rfl
  lookup := rfl
  worker := by
    have hskips : ([w].find? fun v => v.target == target) = none := by simp [hw]
    rw [worker?, List.find?_append, hskips, Option.or_none]
    rfl
  calls := rfl
  announced other hstands := by
    have hne : other ≠ id := by
      rintro rfl
      exact hother (hstands.target_eq e he hid)
    simp [hne]
  registered _ _ := rfl

end Manager
end ProvisionWatch

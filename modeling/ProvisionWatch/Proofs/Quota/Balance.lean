import ProvisionWatch.Quota

/-!
# The balance of a quota

A quota counts in two places: all slots together, and the slots of each caller.
Both counts stand for one thing, the callers whose slots are taken, and both
are kept by taking a slot and by giving one back.

Main results:

- Theorem `Balances.acquire`: taking a slot adds its caller to those accounted
  for.
- Theorem `Balances.release`: giving a slot back removes its caller once.
- Theorem `release_acquire`: a slot that is taken and given back was never there.
-/

namespace ProvisionWatch
namespace Quota

/-! ## Counting down -/

/-- A caller whose name is not listed has the count zero. -/
theorem countOf_eq_zero {caller : String} {counts : List (String × Nat)}
    (h : caller ∉ counts.map Prod.fst) : countOf caller counts = 0 := by
  induction counts with
  | nil => rfl
  | cons p rest ih =>
      obtain ⟨name, n⟩ := p
      rw [List.map_cons, List.mem_cons, not_or] at h
      simp only [countOf, if_neg (Ne.symm h.1)]
      exact ih h.2

/-- Counting down takes one from its caller and nothing from the others, as long as every name is
listed once. -/
theorem countOf_countDown (caller other : String) {counts : List (String × Nat)}
    (hnodup : (counts.map Prod.fst).Nodup) :
    countOf other (countDown caller counts) =
      countOf other counts - if other = caller then 1 else 0 := by
  induction counts with
  | nil => simp
  | cons p rest ih =>
      obtain ⟨name, n⟩ := p
      rw [List.map_cons, List.nodup_cons] at hnodup
      by_cases hcaller : name = caller
      · subst name
        by_cases hother : other = caller
        · subst other
          by_cases hn : n ≤ 1
          · have hrest := countOf_eq_zero hnodup.1
            simp only [countDown, countOf, if_true, if_pos hn, hrest]
            omega
          · simp [hn]
        · by_cases hn : n ≤ 1
          · simp [hn, hother, Ne.symm hother]
          · simp [hn, hother, Ne.symm hother]
      · by_cases hother : name = other
        · have hne : other ≠ caller := fun h => hcaller (hother.trans h)
          simp [hother, hne]
        · simp only [countDown, countOf, if_neg hcaller, if_neg hother]
          exact ih hnodup.2

/-- Counting down lists no new names. -/
theorem names_countDown_sublist (caller : String) (counts : List (String × Nat)) :
    ((countDown caller counts).map Prod.fst).Sublist (counts.map Prod.fst) := by
  induction counts with
  | nil => exact List.Sublist.refl _
  | cons p rest ih =>
      obtain ⟨name, n⟩ := p
      simp only [countDown]
      split
      · split
        · exact List.sublist_cons_self _ _
        · exact List.Sublist.refl _
      · exact ih.cons_cons name

/-- Counting up lists at most the name of its caller anew. -/
theorem mem_names_countUp {caller name : String} {counts : List (String × Nat)}
    (h : name ∈ (countUp caller counts).map Prod.fst) :
    name = caller ∨ name ∈ counts.map Prod.fst := by
  induction counts with
  | nil => exact Or.inl (by simpa using h)
  | cons p rest ih =>
      obtain ⟨listed, n⟩ := p
      simp only [countUp] at h
      split at h
      · exact Or.inr h
      · rcases List.mem_cons.mp h with rfl | h
        · exact Or.inr List.mem_cons_self
        · rcases ih h with h | h
          · exact Or.inl h
          · exact Or.inr (List.mem_cons_of_mem _ h)

/-- Counting up still lists every name once. -/
theorem nodup_names_countUp (caller : String) {counts : List (String × Nat)}
    (hnodup : (counts.map Prod.fst).Nodup) :
    ((countUp caller counts).map Prod.fst).Nodup := by
  induction counts with
  | nil => simp
  | cons p rest ih =>
      obtain ⟨name, n⟩ := p
      rw [List.map_cons, List.nodup_cons] at hnodup
      simp only [countUp]
      split
      · exact List.nodup_cons.mpr hnodup
      · rename_i hne
        refine List.nodup_cons.mpr ⟨?_, ih hnodup.2⟩
        intro h
        rcases mem_names_countUp h with h | h
        · exact hne h
        · exact hnodup.1 h

/-! ## The balance -/

/-- A quota accounts for taken slots, given by the callers that hold them: a caller occurs once
for each of its slots.  It accounts for no more than its limits allow. -/
structure Balances (q : Quota) (holders : List String) : Prop where
  names_nodup : (q.held.map Prod.fst).Nodup
  inUse_eq : q.inUse = holders.length
  heldBy_eq : ∀ caller, q.heldBy caller = holders.count caller
  inUse_le : q.inUse ≤ q.globalLimit
  heldBy_le : ∀ caller, q.heldBy caller ≤ q.perCallerLimit

theorem balances_new (perCallerLimit globalLimit : Nat) :
    (new perCallerLimit globalLimit).Balances [] where
  names_nodup := List.nodup_nil
  inUse_eq := rfl
  heldBy_eq _ := rfl
  inUse_le := Nat.zero_le _
  heldBy_le _ := Nat.zero_le _

/-- In which order the holders are listed does not matter. -/
theorem Balances.perm {q : Quota} {holders others : List String} (h : q.Balances holders)
    (hperm : others.Perm holders) : q.Balances others where
  names_nodup := h.names_nodup
  inUse_eq := by rw [h.inUse_eq, hperm.length_eq]
  heldBy_eq caller := by rw [h.heldBy_eq, hperm.count_eq]
  inUse_le := h.inUse_le
  heldBy_le := h.heldBy_le

/-- What a slot that is taken changes. -/
theorem acquire_eq_ok {q q' : Quota} {caller : String} (h : q.acquire caller = .ok q') :
    q.inUse < q.globalLimit ∧ q.heldBy caller < q.perCallerLimit ∧
      q' = { q with inUse := q.inUse + 1, held := countUp caller q.held } := by
  have hroom := (q.acquire_eq_ok_iff caller).mp ⟨q', h⟩
  refine ⟨hroom.1, hroom.2, ?_⟩
  have hglobal : ¬ q.globalLimit ≤ q.inUse := Nat.not_le.mpr hroom.1
  have hcaller : ¬ q.perCallerLimit ≤ q.heldBy caller := Nat.not_le.mpr hroom.2
  rw [acquire, if_neg hglobal, if_neg hcaller] at h
  exact (Except.ok.inj h).symm

/-- Taking a slot adds its caller to the holders. -/
theorem Balances.acquire {q q' : Quota} {holders : List String} {caller : String}
    (hq : q.Balances holders) (h : q.acquire caller = .ok q') :
    q'.Balances (caller :: holders) := by
  have hheld := heldBy_acquire h
  obtain ⟨hglobal, hcaller, rfl⟩ := acquire_eq_ok h
  refine ⟨nodup_names_countUp caller hq.names_nodup, ?_, ?_, hglobal, ?_⟩
  · simp [hq.inUse_eq]
  · intro other
    rw [hheld other, hq.heldBy_eq other, List.count_cons]
    by_cases hother : other = caller
    · simp [hother]
    · simp [hother, Ne.symm hother]
  · intro other
    rw [hheld other]
    by_cases hother : other = caller
    · rw [hother, if_pos rfl]
      exact hcaller
    · simpa [hother] using hq.heldBy_le other

/-- Giving a slot back removes its caller once from the holders. -/
theorem Balances.release {q : Quota} {holders : List String} {caller : String}
    (hq : q.Balances holders) (hmem : caller ∈ holders) :
    (q.release caller).Balances (holders.erase caller) := by
  have hheld : ∀ other, (q.release caller).heldBy other =
      q.heldBy other - if other = caller then 1 else 0 :=
    fun other => countOf_countDown caller other hq.names_nodup
  refine ⟨hq.names_nodup.sublist (names_countDown_sublist caller q.held), ?_, ?_, ?_, ?_⟩
  · simp [Quota.release, hq.inUse_eq, List.length_erase_of_mem hmem]
  · intro other
    rw [hheld other, hq.heldBy_eq other, List.count_erase]
    by_cases hother : other = caller
    · simp [hother]
    · simp [hother, Ne.symm hother]
  · exact Nat.le_trans (Nat.sub_le _ _) hq.inUse_le
  · intro other
    rw [hheld other]
    exact Nat.le_trans (Nat.sub_le _ _) (hq.heldBy_le other)

/-- A slot that is taken and given back leaves no trace in the counts. -/
theorem release_acquire {q q' : Quota} {caller : String}
    (hnodup : (q.held.map Prod.fst).Nodup) (h : q.acquire caller = .ok q') :
    (q'.release caller).inUse = q.inUse ∧
      ∀ other, (q'.release caller).heldBy other = q.heldBy other := by
  have hheld := heldBy_acquire h
  obtain ⟨-, -, rfl⟩ := acquire_eq_ok h
  refine ⟨Nat.add_sub_cancel _ _, fun other => ?_⟩
  have hdown := countOf_countDown caller other (nodup_names_countUp caller hnodup)
  rw [release, heldBy, hdown]
  exact Nat.sub_eq_of_eq_add (hheld other)

end Quota
end ProvisionWatch

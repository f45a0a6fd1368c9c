import Mathlib.Data.List.Nodup
import ProvisionWatch.Event.Basic
import ProvisionWatch.Proofs.Time.Order

/-!
# Events in order of time

Events that are listed at once are taken in in the order in which they happened, those
without a date first.  Events of one date, and those without, stay in the order of the
listing.  This says all: there is just one such order.  Where no two events have the same
date it does not even depend on the order of the listing.

Main results:

- Theorem `chronological_mergeSort`: sorting puts events in order of time.
- Theorem `Chronological.unique`: there is no other such order.
- Theorem `mergeSort_eq_of_perm`: events of different dates can be listed in any order.
-/

namespace ProvisionWatch
namespace Event

/-- An event is undated, or dated and no later than another dated one. -/
def NoLater (a b : Event) : Prop :=
  ∀ s ∈ a.timestamp, ∃ t ∈ b.timestamp, s ≤ t

/-- The listed events in order of time: those without a date first, and those of one date as they
are listed. -/
structure Chronological (listed sorted : List Event) : Prop where
  perm : sorted.Perm listed
  ordered : sorted.Pairwise NoLater
  stable : ∀ date, (sorted.filter fun e => e.timestamp = date) =
    listed.filter fun e => e.timestamp = date

/-! ## The order -/

variable {a b c : Event}

theorem noLater_iff : a.noLater b = true ↔ a.NoLater b := by
  unfold noLater NoLater
  cases a.timestamp with
  | none => simp
  | some s => cases b.timestamp <;> simp

theorem noLater_of_timestamp_eq (h : a.timestamp = b.timestamp) : a.NoLater b :=
  fun s hs => ⟨s, h ▸ hs, le_refl s⟩

theorem NoLater.trans (hab : a.NoLater b) (hbc : b.NoLater c) : a.NoLater c := by
  intro s hs
  obtain ⟨t, ht, hst⟩ := hab s hs
  obtain ⟨u, hu, htu⟩ := hbc t ht
  exact ⟨u, hu, hst.trans htu⟩

theorem noLater_total (a b : Event) : a.NoLater b ∨ b.NoLater a := by
  unfold NoLater
  cases ha : a.timestamp with
  | none => simp
  | some s =>
      cases hb : b.timestamp with
      | none => simp
      | some t => simpa using le_total s t

/-- Events of which neither is later have the same date, or none. -/
theorem NoLater.timestamp_eq (hab : a.NoLater b) (hba : b.NoLater a) :
    a.timestamp = b.timestamp := by
  cases ha : a.timestamp with
  | none =>
      cases hb : b.timestamp with
      | none => rfl
      | some t =>
          obtain ⟨s, hs, -⟩ := hba t hb
          rw [ha] at hs
          cases hs
  | some s =>
      obtain ⟨t, ht, hst⟩ := hab s ha
      obtain ⟨s', hs', hts⟩ := hba t ht
      obtain rfl := Option.some.inj (ha.symm.trans hs')
      rw [Option.mem_def] at ht
      rw [ht, le_antisymm hst hts]

/-! ## Sorting -/

theorem trans_noLater (a b c : Event) (hab : a.noLater b = true) (hbc : b.noLater c = true) :
    a.noLater c = true :=
  noLater_iff.mpr ((noLater_iff.mp hab).trans (noLater_iff.mp hbc))

@[simp]
theorem total_noLater (a b : Event) : (a.noLater b || b.noLater a) = true := by
  rw [Bool.or_eq_true, noLater_iff, noLater_iff]
  exact noLater_total a b

theorem ordered_mergeSort (listed : List Event) :
    (listed.mergeSort noLater).Pairwise NoLater :=
  (List.pairwise_mergeSort trans_noLater total_noLater listed).imp noLater_iff.mp

/-- Sorting puts events in order of time. -/
theorem chronological_mergeSort (listed : List Event) :
    Chronological listed (listed.mergeSort noLater) where
  perm := List.mergeSort_perm listed noLater
  ordered := ordered_mergeSort listed
  stable date := by
    let ofDate (e : Event) : Bool := e.timestamp = date
    have hperm : ((listed.mergeSort noLater).filter ofDate).Perm (listed.filter ofDate) :=
      (List.mergeSort_perm listed noLater).filter ofDate
    have hsame : (listed.filter ofDate).Pairwise fun a b => a.noLater b = true := by
      refine List.pairwise_of_forall_mem_list fun a ha b hb => noLater_iff.mpr ?_
      have hdate := of_decide_eq_true (List.mem_filter.mp ha).2
      have hdate' := of_decide_eq_true (List.mem_filter.mp hb).2
      exact noLater_of_timestamp_eq (hdate.trans hdate'.symm)
    -- Events of one date are in order as they are listed, so sorting leaves them in that order.
    have hsublist : (listed.filter ofDate).Sublist (listed.mergeSort noLater) :=
      List.sublist_mergeSort trans_noLater total_noLater hsame List.filter_sublist
    have hfiltered := hsublist.filter ofDate
    rw [List.filter_filter] at hfiltered
    simp only [Bool.and_self] at hfiltered
    exact (hfiltered.eq_of_length hperm.length_eq.symm).symm

/-- There is no other order of time. -/
theorem Chronological.unique {listed sorted other : List Event} (h : Chronological listed sorted)
    (h' : Chronological listed other) : sorted = other := by
  have hperm := h.perm.trans h'.perm.symm
  have hsame := fun date => (h.stable date).trans (h'.stable date).symm
  have hordered := h.ordered
  have hordered' := h'.ordered
  clear h h'
  induction sorted generalizing other with
  | nil => exact hperm.nil_eq
  | cons x rest ih =>
      cases other with
      | nil => exact absurd hperm.symm.nil_eq (List.cons_ne_nil x rest).symm
      | cons y rest' =>
          rw [List.pairwise_cons] at hordered hordered'
          -- Neither of the first events is later than the other one, so they have one date.
          have hxy : x.NoLater y := by
            rcases List.mem_cons.mp (hperm.mem_iff.mpr List.mem_cons_self) with rfl | hmem
            · exact noLater_of_timestamp_eq rfl
            · exact hordered.1 y hmem
          have hyx : y.NoLater x := by
            rcases List.mem_cons.mp (hperm.mem_iff.mp List.mem_cons_self) with rfl | hmem
            · exact noLater_of_timestamp_eq rfl
            · exact hordered'.1 x hmem
          have hfirst := hsame x.timestamp
          rw [List.filter_cons_of_pos (by simp),
            List.filter_cons_of_pos (by simp [hxy.timestamp_eq hyx])] at hfirst
          obtain rfl := (List.cons.inj hfirst).1
          refine congrArg (x :: ·) (ih hperm.cons_inv (fun date => ?_) hordered.2 hordered'.2)
          have hdate := hsame date
          by_cases hx : x.timestamp = date
          · rw [List.filter_cons_of_pos (by simp [hx]),
              List.filter_cons_of_pos (by simp [hx])] at hdate
            exact (List.cons.inj hdate).2
          · rwa [List.filter_cons_of_neg (by simp [hx]),
              List.filter_cons_of_neg (by simp [hx])] at hdate

/-- Only the dates that occur need to be compared, so an order of time can be told by looking. -/
theorem chronological_iff {listed sorted : List Event} :
    Chronological listed sorted ↔
      sorted.Perm listed ∧ (sorted.Pairwise fun a b => a.noLater b = true) ∧
        ∀ e ∈ listed, (sorted.filter fun f => f.timestamp = e.timestamp) =
          listed.filter fun f => f.timestamp = e.timestamp := by
  constructor
  · intro h
    exact ⟨h.perm, h.ordered.imp noLater_iff.mpr, fun e _ => h.stable e.timestamp⟩
  · rintro ⟨hperm, hordered, hstable⟩
    refine ⟨hperm, hordered.imp noLater_iff.mp, fun date => ?_⟩
    by_cases hdate : ∃ e ∈ listed, e.timestamp = date
    · obtain ⟨e, he, rfl⟩ := hdate
      exact hstable e he
    · have hother : ∀ e ∈ listed, ¬ decide (e.timestamp = date) = true := by
        simpa using hdate
      rw [List.filter_eq_nil_iff.mpr fun e he => hother e (hperm.mem_iff.mp he),
        List.filter_eq_nil_iff.mpr hother]

instance (listed sorted : List Event) : Decidable (Chronological listed sorted) :=
  decidable_of_iff' _ chronological_iff

/-- Events of which no two have the same date can be listed in any order. -/
theorem mergeSort_eq_of_perm {listed other : List Event} (hperm : other.Perm listed)
    (hdates : (listed.map timestamp).Nodup) :
    other.mergeSort noLater = listed.mergeSort noLater := by
  refine List.Perm.eq_of_pairwise ?_ (ordered_mergeSort other) (ordered_mergeSort listed)
    ((List.mergeSort_perm other noLater).trans
      (hperm.trans (List.mergeSort_perm listed noLater).symm))
  intro a b ha hb hab hba
  exact List.inj_on_of_nodup_map hdates (hperm.mem_iff.mp (List.mem_mergeSort.mp ha))
    (List.mem_mergeSort.mp hb) (hab.timestamp_eq hba)

end Event
end ProvisionWatch

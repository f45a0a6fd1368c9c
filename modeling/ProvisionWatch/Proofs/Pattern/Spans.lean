import ProvisionWatch.Pattern.Simplify

/-!
# Finding what a pattern describes

The places where a pattern may end are found from a list of places where it may
begin.  A step that follows a relation is taken so many times by following the
relation as often, and a search that only goes on from new places reaches the
same ones.  A search that may go on for ever has seen every place of the text
after as many rounds as there are places.

Bounds of a repetition can be met where the least number is not above the
greatest one; only then does a search between the bounds find what is described.

Main results:

- Theorem `Follows.mem_reach`: what a search reaches.
- Theorem `Follows.mem_reach_of_places`: and what it reaches if it never stops.
- Theorem `ends_follows`: the places that are found are those where what the pattern
  describes ends.
- Theorem `occursIn_iff`: a pattern occurs in a text if it describes any stretch
  of it.
-/

namespace ProvisionWatch
namespace Pattern

/-! ## Relations that are followed -/

theorem Times.append {r : Nat → Nat → Prop} {m n i j k : Nat} (h : Times r m i j)
    (h' : Times r n j k) : Times r (m + n) i k := by
  induction h with
  | zero => simpa using h'
  | succ first _ ih =>
      rw [Nat.add_right_comm]
      exact .succ first (ih h')

theorem times_add {r : Nat → Nat → Prop} {m n i k : Nat} :
    Times r (m + n) i k ↔ ∃ j, Times r m i j ∧ Times r n j k := by
  constructor
  · intro h
    induction m generalizing i with
    | zero => exact ⟨i, .zero i, by simpa using h⟩
    | succ m ih =>
        rw [Nat.add_right_comm] at h
        cases h with
        | succ first rest =>
            obtain ⟨j, hm, hn⟩ := ih rest
            exact ⟨j, .succ first hm, hn⟩
  · rintro ⟨j, hm, hn⟩
    exact hm.append hn

/-- A step from places up to `size` to those that a relation gives. -/
structure Follows (size : Nat) (step : List Nat → List Nat) (r : Nat → Nat → Prop) : Prop where
  mem_iff : ∀ {places : List Nat}, (∀ i ∈ places, i ≤ size) → ∀ {j : Nat},
    j ∈ step places ↔ ∃ i ∈ places, r i j
  le_size : ∀ {i j : Nat}, i ≤ size → r i j → j ≤ size

namespace Follows

variable {size : Nat} {step : List Nat → List Nat} {r : Nat → Nat → Prop}

theorem step_le (h : Follows size step r) {places : List Nat} (hplaces : ∀ i ∈ places, i ≤ size) :
    ∀ j ∈ step places, j ≤ size := by
  intro j hj
  obtain ⟨i, hi, hr⟩ := (h.mem_iff hplaces).mp hj
  exact h.le_size (hplaces i hi) hr

theorem times_le (h : Follows size step r) {n i j : Nat} (hi : i ≤ size) (ht : Times r n i j) :
    j ≤ size := by
  induction ht with
  | zero => exact hi
  | succ first _ ih => exact ih (h.le_size hi first)

/-- A step taken so many times follows the relation as often. -/
theorem mem_steps (h : Follows size step r) {n : Nat} {places : List Nat}
    (hplaces : ∀ i ∈ places, i ≤ size) {j : Nat} :
    j ∈ steps step n places ↔ ∃ i ∈ places, Times r n i j := by
  induction n generalizing places with
  | zero =>
      constructor
      · exact fun hj => ⟨j, hj, .zero j⟩
      · rintro ⟨i, hi, ht⟩
        cases ht
        exact hi
  | succ n ih =>
      rw [steps]
      split
      · rename_i hempty
        rw [List.isEmpty_iff.mp hempty]
        simp
      · rw [ih (h.step_le hplaces)]
        constructor
        · rintro ⟨k, hk, ht⟩
          obtain ⟨i, hi, hr⟩ := (h.mem_iff hplaces).mp hk
          exact ⟨i, hi, .succ hr ht⟩
        · rintro ⟨i, hi, ht⟩
          cases ht with
          | succ first rest => exact ⟨_, (h.mem_iff hplaces).mpr ⟨i, hi, first⟩, rest⟩

/-! ## Searching -/

/-- A search has gone on from all places it has seen, but for those in front. -/
structure Searching (size : Nat) (r : Nat → Nat → Prop) (seen front : List Nat) : Prop where
  le_size : ∀ i ∈ seen, i ≤ size
  front_seen : ∀ i ∈ front, i ∈ seen
  passed : ∀ i ∈ seen, i ∉ front → ∀ j, r i j → j ∈ seen

/-- The places behind those in front that have not been seen. -/
def fresh (step : List Nat → List Nat) (seen front : List Nat) : List Nat :=
  (step front).filter fun i => !seen.contains i

theorem reach_succ (n : Nat) (seen front : List Nat) :
    reach step (n + 1) seen front =
      if (fresh step seen front).isEmpty then seen
      else reach step n (seen ++ fresh step seen front) (fresh step seen front) :=
  rfl

theorem mem_fresh (h : Follows size step r) {seen front : List Nat}
    (hfront : ∀ i ∈ front, i ≤ size) {j : Nat} :
    j ∈ fresh step seen front ↔ (∃ i ∈ front, r i j) ∧ j ∉ seen := by
  simp [fresh, List.mem_filter, h.mem_iff hfront]

/-- The next place is seen, or it is fresh. -/
theorem Searching.next {seen front : List Nat} (hs : Searching size r seen front)
    (h : Follows size step r) {i j : Nat} (hi : i ∈ seen) (hr : r i j) :
    j ∈ seen ∨ j ∈ fresh step seen front := by
  by_cases hfront : i ∈ front
  · by_cases hj : j ∈ seen
    · exact .inl hj
    · refine .inr ((h.mem_fresh fun k hk => hs.le_size k (hs.front_seen k hk)).mpr ?_)
      exact ⟨⟨i, hfront, hr⟩, hj⟩
  · exact .inl (hs.passed i hi hfront j hr)

theorem Searching.goOn {seen front : List Nat} (hs : Searching size r seen front)
    (h : Follows size step r) :
    Searching size r (seen ++ fresh step seen front) (fresh step seen front) where
  le_size := by
    intro i hi
    rcases List.mem_append.mp hi with hi | hi
    · exact hs.le_size i hi
    · have hfront : ∀ k ∈ front, k ≤ size := fun k hk => hs.le_size k (hs.front_seen k hk)
      obtain ⟨⟨k, hk, hr⟩, -⟩ := (h.mem_fresh hfront).mp hi
      exact h.le_size (hfront k hk) hr
  front_seen := fun i hi => List.mem_append_right _ hi
  passed := by
    intro i hi hfresh j hr
    rcases List.mem_append.mp hi with hi | hi
    · exact List.mem_append.mpr (hs.next h hi hr)
    · exact absurd hi hfresh

/-- A path from a place that was seen stays among those, or goes on from a fresh place. -/
theorem Searching.leaves {seen front : List Nat} (hs : Searching size r seen front)
    (h : Follows size step r) {n i j : Nat} (hi : i ∈ seen) (ht : Times r n i j) :
    j ∈ seen ∨ ∃ m < n, ∃ k ∈ fresh step seen front, Times r m k j := by
  induction ht with
  | zero => exact .inl hi
  | succ first rest ih =>
      rcases hs.next h hi first with hseen | hfresh
      · rcases ih hseen with hj | ⟨m, hm, k, hk, ht⟩
        · exact .inl hj
        · exact .inr ⟨m, Nat.lt_succ_of_lt hm, k, hk, ht⟩
      · exact .inr ⟨_, Nat.lt_succ_self _, _, hfresh, rest⟩

/-- A search of so many rounds reaches what was seen, and what is behind the front by as many
steps. -/
theorem mem_reach (h : Follows size step r) {n : Nat} {seen front : List Nat}
    (hs : Searching size r seen front) {j : Nat} :
    j ∈ reach step n seen front ↔
      j ∈ seen ∨ ∃ m ≤ n, ∃ i ∈ front, Times r m i j := by
  induction n generalizing seen front with
  | zero =>
      constructor
      · exact .inl
      · rintro (hj | ⟨m, hm, i, hi, ht⟩)
        · exact hj
        · cases Nat.le_zero.mp hm
          cases ht
          exact hs.front_seen _ hi
  | succ n ih =>
      rw [reach_succ]
      have hforth : (∃ m ≤ n + 1, ∃ i ∈ front, Times r m i j) →
          j ∈ seen ∨ ∃ m ≤ n, ∃ k ∈ fresh step seen front, Times r m k j := by
        rintro ⟨m, hm, i, hi, ht⟩
        rcases hs.leaves h (hs.front_seen i hi) ht with hj | ⟨m', hm', hk⟩
        · exact .inl hj
        · exact .inr ⟨m', by omega, hk⟩
      split
      · rename_i hempty
        rw [List.isEmpty_iff] at hempty
        constructor
        · exact .inl
        · rintro (hj | hpath)
          · exact hj
          · simpa [hempty] using hforth hpath
      · rw [ih (hs.goOn h), List.mem_append]
        have hfront : ∀ i ∈ front, i ≤ size := fun i hi => hs.le_size i (hs.front_seen i hi)
        constructor
        · rintro ((hj | hj) | ⟨m, hm, k, hk, ht⟩)
          · exact .inl hj
          · obtain ⟨⟨i, hi, hr⟩, -⟩ := (h.mem_fresh hfront).mp hj
            exact .inr ⟨1, by omega, i, hi, .succ hr (.zero j)⟩
          · obtain ⟨⟨i, hi, hr⟩, -⟩ := (h.mem_fresh hfront).mp hk
            exact .inr ⟨m + 1, by omega, i, hi, .succ hr ht⟩
        · rintro (hj | hpath)
          · exact .inl (.inl hj)
          · rcases hforth hpath with hj | hfresh
            · exact .inl (.inl hj)
            · exact .inr hfresh

/-- How many places have not been seen. -/
def unseen (size : Nat) (seen : List Nat) : Nat :=
  ((List.range (size + 1)).filter fun i => !seen.contains i).length

theorem unseen_append_lt {seen new : List Nat} {i : Nat} (hi : i ≤ size) (hnew : i ∈ new)
    (hseen : i ∉ seen) : unseen size (seen ++ new) < unseen size seen := by
  unfold unseen
  have hsub : ((List.range (size + 1)).filter fun k => !(seen ++ new).contains k) =
      ((List.range (size + 1)).filter fun k => !seen.contains k).filter
        fun k => !new.contains k := by
    rw [List.filter_filter]
    congr 1
    funext k
    simp [Bool.and_comm]
  rw [hsub]
  refine List.length_filter_lt_length_iff_exists.mpr ⟨i, ?_, ?_⟩
  · simp [List.mem_filter, hseen]
    omega
  · simp [hnew]

/-- After as many rounds as there are places left, nothing new is behind what was seen. -/
theorem reach_closed (h : Follows size step r) {n : Nat} {seen front : List Nat}
    (hs : Searching size r seen front) (hn : unseen size seen ≤ n) {i j : Nat}
    (hi : i ∈ reach step n seen front) (hr : r i j) : j ∈ reach step n seen front := by
  induction n generalizing seen front with
  | zero =>
      have hj : j ≤ size := h.le_size (hs.le_size i hi) hr
      have hnone := List.length_eq_zero_iff.mp (Nat.le_zero.mp hn)
      have hseen := List.filter_eq_nil_iff.mp hnone j (List.mem_range.mpr (by omega))
      show j ∈ seen
      simpa using hseen
  | succ n ih =>
      rw [reach_succ] at hi ⊢
      split at hi
      · rename_i hempty
        rw [if_pos hempty]
        rw [List.isEmpty_iff] at hempty
        simpa [hempty] using hs.next h hi hr
      · rename_i hsome
        rw [if_neg hsome]
        refine ih (hs.goOn h) ?_ hi
        obtain ⟨k, hk⟩ := List.exists_mem_of_ne_nil _ (mt List.isEmpty_iff.mpr hsome)
        have hfront : ∀ i ∈ front, i ≤ size := fun i hi => hs.le_size i (hs.front_seen i hi)
        have hfresh := (h.mem_fresh hfront).mp hk
        have := unseen_append_lt (h.step_le hfront k (List.mem_filter.mp hk).1) hk hfresh.2
        omega

/-- A search of as many rounds as there are places reaches all that is behind the front. -/
theorem mem_reach_of_places (h : Follows size step r) {front : List Nat}
    (hfront : ∀ i ∈ front, i ≤ size) {j : Nat} :
    j ∈ reach step (size + 1) front front ↔ ∃ m, ∃ i ∈ front, Times r m i j := by
  have hs : Searching size r front front :=
    ⟨hfront, fun _ hi => hi, fun _ hi hnot => absurd hi hnot⟩
  constructor
  · intro hj
    rcases (h.mem_reach hs).mp hj with hj | ⟨m, -, hm⟩
    · exact ⟨0, j, hj, .zero j⟩
    · exact ⟨m, hm⟩
  · rintro ⟨m, i, hi, ht⟩
    have hplaces : unseen size front ≤ size + 1 := by
      simpa [unseen] using List.length_filter_le (fun i => !front.contains i)
        (List.range (size + 1))
    have hstart : i ∈ reach step (size + 1) front front := (h.mem_reach hs).mpr (.inl hi)
    clear hi
    induction ht with
    | zero => exact hstart
    | succ first _ ih => exact ih (h.reach_closed hs hplaces hstart first)

end Follows

/-! ## Patterns -/

/-- The least number of every repetition is not above the greatest one. -/
def Bounded : Pattern → Prop
  | empty | literal _ | one _ | look _ => True
  | group _ p => p.Bounded
  | seq a b => a.Bounded ∧ b.Bounded
  | alt a b => a.Bounded ∧ b.Bounded
  | many p least most _ => p.Bounded ∧ ∀ m ∈ most, least ≤ m

theorem behind_follows (text : Array Char) (test : Char → Bool) :
    Follows text.size (behind text test)
      fun i j => (∃ c, text[i]? = some c ∧ test c = true) ∧ j = i + 1 where
  mem_iff := by
    intro places _ j
    exact mem_behind text test places j
  le_size := by
    rintro i j - ⟨⟨c, hc, -⟩, rfl⟩
    obtain ⟨hi, -⟩ := Array.getElem?_eq_some_iff.mp hc
    exact hi

theorem Follows.comp {size : Nat} {step step' : List Nat → List Nat} {r r' : Nat → Nat → Prop}
    (h : Follows size step r) (h' : Follows size step' r') :
    Follows size (fun places => step' (step places)) fun i k => ∃ j, r i j ∧ r' j k where
  mem_iff := by
    intro places hplaces k
    rw [h'.mem_iff (h.step_le hplaces)]
    constructor
    · rintro ⟨j, hj, hr'⟩
      obtain ⟨i, hi, hr⟩ := (h.mem_iff hplaces).mp hj
      exact ⟨i, hi, j, hr, hr'⟩
    · rintro ⟨i, hi, j, hr, hr'⟩
      exact ⟨j, (h.mem_iff hplaces).mpr ⟨i, hi, hr⟩, hr'⟩
  le_size := by
    rintro i k hi ⟨j, hr, hr'⟩
    exact h'.le_size (h.le_size hi hr) hr'

theorem literal_follows (text : Array Char) (chars : List Char) :
    Follows text.size (ends text (literal chars)) (Spans text (literal chars)) := by
  show Follows _ (fun starts => chars.foldl _ starts) (Reads text chars)
  induction chars with
  | nil =>
      refine ⟨by simp [Reads], ?_⟩
      rintro i j hi rfl
      exact hi
  | cons c cs ih =>
      have h := (behind_follows text fun d => d == c).comp ih
      refine ⟨?_, ?_⟩
      · intro places hplaces k
        refine (h.mem_iff hplaces).trans ?_
        constructor
        · rintro ⟨i, hi, _, ⟨⟨d, hd, hdc⟩, rfl⟩, hr⟩
          obtain rfl := eq_of_beq hdc
          exact ⟨i, hi, hd, hr⟩
        · rintro ⟨i, hi, hc, hr⟩
          exact ⟨i, hi, i + 1, ⟨⟨c, hc, beq_self_eq_true c⟩, rfl⟩, hr⟩
      · rintro i k hi ⟨hc, hr⟩
        exact h.le_size hi ⟨i + 1, ⟨⟨c, hc, by simp⟩, rfl⟩, hr⟩

theorem many_follows {text : Array Char} {p : Pattern} {least : Nat} {most : Option Nat}
    {greedy : Bool} (h : Follows text.size (ends text p) (Spans text p))
    (hbounds : ∀ m ∈ most, least ≤ m) :
    Follows text.size (ends text (many p least most greedy))
      (Spans text (many p least most greedy)) where
  mem_iff := by
    intro places hplaces k
    have hfirst : ∀ j ∈ steps (ends text p) least places, j ≤ text.size := by
      intro j hj
      obtain ⟨i, hi, ht⟩ := (h.mem_steps hplaces).mp hj
      exact h.times_le (hplaces i hi) ht
    cases most with
    | none =>
        refine (h.mem_reach_of_places hfirst).trans ?_
        constructor
        · rintro ⟨m, j, hj, ht⟩
          obtain ⟨i, hi, ht'⟩ := (h.mem_steps hplaces).mp hj
          exact ⟨i, hi, least + m, Nat.le_add_right _ _, nofun, ht'.append ht⟩
        · rintro ⟨i, hi, n, hn, -, ht⟩
          rw [← Nat.add_sub_of_le hn] at ht
          obtain ⟨j, ht', ht⟩ := times_add.mp ht
          exact ⟨n - least, j, (h.mem_steps hplaces).mpr ⟨i, hi, ht'⟩, ht⟩
    | some most =>
        have hle := hbounds most rfl
        have hs : Follows.Searching text.size (Spans text p) (steps (ends text p) least places)
            (steps (ends text p) least places) :=
          ⟨hfirst, fun _ hi => hi, fun _ hi hnot => absurd hi hnot⟩
        refine (h.mem_reach (n := most - least) hs).trans ?_
        constructor
        · rintro (hk | ⟨m, hm, j, hj, ht⟩)
          · obtain ⟨i, hi, ht⟩ := (h.mem_steps hplaces).mp hk
            exact ⟨i, hi, least, Nat.le_refl _, fun _ h => Option.some.inj h ▸ hle, ht⟩
          · obtain ⟨i, hi, ht'⟩ := (h.mem_steps hplaces).mp hj
            refine ⟨i, hi, least + m, Nat.le_add_right _ _, ?_, ht'.append ht⟩
            rintro _ ⟨⟩
            omega
        · rintro ⟨i, hi, n, hn, hmost, ht⟩
          have := hmost most rfl
          rw [← Nat.add_sub_of_le hn] at ht
          obtain ⟨j, ht', ht⟩ := times_add.mp ht
          exact .inr ⟨n - least, by omega, j, (h.mem_steps hplaces).mpr ⟨i, hi, ht'⟩, ht⟩
  le_size := by
    rintro i k hi ⟨n, -, -, ht⟩
    exact h.times_le hi ht

/-- The places that are found are those where what the pattern describes ends. -/
theorem ends_follows (text : Array Char) {p : Pattern} (hp : p.Bounded) :
    Follows text.size (ends text p) (Spans text p) := by
  induction p with
  | empty =>
      refine ⟨by simp [ends, Spans], ?_⟩
      rintro i j hi rfl
      exact hi
  | literal chars => exact literal_follows text chars
  | one chars => exact behind_follows text chars.mem
  | look assertion =>
      refine ⟨?_, ?_⟩
      · intro places _ j
        simp only [ends, Spans, List.mem_filter]
        constructor
        · exact fun hj => ⟨j, hj.1, hj.2, rfl⟩
        · rintro ⟨_, hi, hholds, rfl⟩
          exact ⟨hi, hholds⟩
      · rintro i j hi ⟨-, rfl⟩
        exact hi
  | group number p ih => exact ih hp
  | seq a b iha ihb => exact (iha hp.1).comp (ihb hp.2)
  | alt a b iha ihb =>
      refine ⟨?_, ?_⟩
      · intro places hplaces j
        rw [mem_ends_alt, (iha hp.1).mem_iff hplaces, (ihb hp.2).mem_iff hplaces]
        simp [Spans, and_or_left, exists_or]
      · rintro i j hi (hr | hr)
        · exact (iha hp.1).le_size hi hr
        · exact (ihb hp.2).le_size hi hr
  | many p least most greedy ih => exact many_follows (ih hp.1) hp.2

/-- A pattern occurs in a text if it describes any stretch of it. -/
theorem occursIn_iff {p : Pattern} (hp : p.Bounded) (text : String) :
    p.occursIn text = true ↔
      ∃ i ≤ text.length, ∃ j, Spans text.toList.toArray p i j := by
  have hplaces : ∀ i ∈ List.range (text.toList.toArray.size + 1), i ≤ text.toList.toArray.size :=
    fun i hi => Nat.le_of_lt_succ (List.mem_range.mp hi)
  have hfound : p.occursIn text = true ↔
      ∃ j, j ∈ ends text.toList.toArray p (List.range (text.toList.toArray.size + 1)) := by
    simp [occursIn, List.eq_nil_iff_forall_not_mem]
  rw [hfound]
  constructor
  · rintro ⟨j, hj⟩
    obtain ⟨i, hi, hr⟩ := ((ends_follows _ hp).mem_iff hplaces).mp hj
    exact ⟨i, hplaces i hi, j, hr⟩
  · rintro ⟨i, hi, j, hr⟩
    exact ⟨j, ((ends_follows _ hp).mem_iff hplaces).mpr
      ⟨i, List.mem_range.mpr (Nat.lt_succ_of_le hi), hr⟩⟩

end Pattern
end ProvisionWatch

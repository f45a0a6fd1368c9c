import ProvisionWatch.Proofs.Pattern.Spans

/-!
# Rows in their simple form

Taking a row apart, putting literals together and building a row again does not
change what is described.  A row between two assertions stays a row, whatever
stands between them.  Patterns that are put together have bounds that can be met
if what they are put together from does.

Main results:

- Theorem `spans_sequence`: what patterns in a row describe.
- Theorem `alternatives_tied`: a pattern between two assertions stays a row.
- Theorems `Bounded.sequence`, `Bounded.alternatives` and `Bounded.repeated`:
  bounds that can be met.
-/

namespace ProvisionWatch
namespace Pattern

/-! ## What a row describes -/

/-- The patterns describe stretches of the text that follow each other. -/
def SpansRow (text : Array Char) : List Pattern → Nat → Nat → Prop
  | [], i, j => i = j
  | p :: ps, i, k => ∃ j, Spans text p i j ∧ SpansRow text ps j k

variable {text : Array Char}

@[simp]
theorem spansRow_append {ps qs : List Pattern} {i k : Nat} :
    SpansRow text (ps ++ qs) i k ↔ ∃ j, SpansRow text ps i j ∧ SpansRow text qs j k := by
  induction ps generalizing i with
  | nil => simp [SpansRow]
  | cons p ps ih =>
      simp only [List.cons_append, SpansRow, ih]
      constructor
      · rintro ⟨a, ha, j, hj, hk⟩
        exact ⟨j, ⟨a, ha, hj⟩, hk⟩
      · rintro ⟨j, ⟨a, ha, hj⟩, hk⟩
        exact ⟨a, ha, j, hj, hk⟩

@[simp]
theorem spansRow_singleton {p : Pattern} {i j : Nat} :
    SpansRow text [p] i j ↔ Spans text p i j := by
  simp [SpansRow]

@[simp]
theorem spansRow_parts {p : Pattern} {i k : Nat} :
    SpansRow text p.parts i k ↔ Spans text p i k := by
  induction p generalizing i k with
  | empty => exact Iff.rfl
  | seq a b iha ihb =>
      rw [parts, spansRow_append]
      simp only [iha, ihb]
      exact Iff.rfl
  | literal | one | look | group | alt | many => exact spansRow_singleton

@[simp]
theorem spansRow_flatMap_parts {ps : List Pattern} {i k : Nat} :
    SpansRow text (ps.flatMap parts) i k ↔ SpansRow text ps i k := by
  induction ps generalizing i with
  | nil => exact Iff.rfl
  | cons p ps ih => simp only [List.flatMap_cons, spansRow_append, spansRow_parts, ih, SpansRow]

@[simp]
theorem reads_append {cs ds : List Char} {i k : Nat} :
    Reads text (cs ++ ds) i k ↔ ∃ j, Reads text cs i j ∧ Reads text ds j k := by
  induction cs generalizing i with
  | nil => simp [Reads]
  | cons c cs ih => simp [Reads, ih, and_assoc]

@[simp]
theorem spansRow_mergeLiterals {ps : List Pattern} {i k : Nat} :
    SpansRow text (mergeLiterals ps) i k ↔ SpansRow text ps i k := by
  fun_induction mergeLiterals ps generalizing i k with
  | case1 a rest b rest' hmerged ih =>
      have hrest : ∀ j, SpansRow text rest j k ↔
          ∃ l, Reads text b j l ∧ SpansRow text rest' l k := by
        intro j
        rw [← ih, hmerged]
        exact Iff.rfl
      simp only [SpansRow, Spans, reads_append, hrest]
      constructor
      · rintro ⟨l, ⟨j, ha, hb⟩, hk⟩
        exact ⟨j, ha, l, hb, hk⟩
      · rintro ⟨j, ha, l, hb, hk⟩
        exact ⟨l, ⟨j, ha, hb⟩, hk⟩
  | case2 a rest _ ih => simp only [SpansRow, ih]
  | case3 p rest _ ih => simp only [SpansRow, ih]
  | case4 => exact Iff.rfl

@[simp]
theorem spans_ofParts {ps : List Pattern} {i k : Nat} :
    Spans text (ofParts ps) i k ↔ SpansRow text ps i k := by
  fun_induction ofParts ps generalizing i k with
  | case1 => exact Iff.rfl
  | case2 p => exact spansRow_singleton.symm
  | case3 p rest _ ih => simp only [Spans, SpansRow, ih]

/-- What patterns in a row describe. -/
@[simp]
theorem spans_sequence {ps : List Pattern} {i k : Nat} :
    Spans text (sequence ps) i k ↔ SpansRow text ps i k := by
  rw [sequence, spans_ofParts, spansRow_mergeLiterals, spansRow_flatMap_parts]

/-! ## A pattern between two assertions -/

theorem mergeLiterals_ne_nil {ps : List Pattern} (h : ps ≠ []) : mergeLiterals ps ≠ [] := by
  fun_cases mergeLiterals ps <;> simp_all

/-- The pattern between two assertions. -/
def tied (start stop : Look) (p : Pattern) : Pattern :=
  sequence [look start, p, look stop]

theorem exists_tied_eq_seq (start stop : Look) (p : Pattern) :
    ∃ b, tied start stop p = seq (look start) b := by
  have hparts : [look start, p, look stop].flatMap parts =
      look start :: (p.parts ++ [look stop]) := by
    simp [parts]
  have hrest := @mergeLiterals_ne_nil (p.parts ++ [look stop]) (by simp)
  obtain ⟨q, rest, hq⟩ := List.exists_cons_of_ne_nil hrest
  refine ⟨ofParts (q :: rest), ?_⟩
  rw [tied, sequence, hparts]
  show ofParts (look start :: mergeLiterals (p.parts ++ [look stop])) = _
  rw [hq]
  rfl

/-- A pattern between two assertions stays a row. -/
@[simp]
theorem alternatives_tied (start stop : Look) (p : Pattern) :
    alternatives [tied start stop p] = tied start stop p := by
  obtain ⟨b, hb⟩ := exists_tied_eq_seq start stop p
  rw [hb]
  rfl

@[simp]
theorem spans_tied {start stop : Look} {p : Pattern} {i k : Nat} :
    Spans text (tied start stop p) i k ↔
      start.holds text i = true ∧ Spans text p i k ∧ stop.holds text k = true := by
  rw [tied, spans_sequence]
  constructor
  · rintro ⟨_, ⟨hi, rfl⟩, _, hp, _, ⟨hk, rfl⟩, rfl⟩
    exact ⟨hi, hp, hk⟩
  · rintro ⟨hi, hp, hk⟩
    exact ⟨i, ⟨hi, rfl⟩, k, hp, k, ⟨hk, rfl⟩, rfl⟩

/-! ## Bounds that can be met -/

theorem Bounded.parts {p : Pattern} (h : p.Bounded) : ∀ q ∈ p.parts, q.Bounded := by
  induction p with
  | empty => exact nofun
  | seq a b iha ihb =>
      intro q hq
      rcases List.mem_append.mp hq with hq | hq
      · exact iha h.1 q hq
      · exact ihb h.2 q hq
  | literal | one | look | group | alt | many => exact fun q hq => List.mem_singleton.mp hq ▸ h

theorem Bounded.mergeLiterals {ps : List Pattern} (h : ∀ p ∈ ps, p.Bounded) :
    ∀ p ∈ Pattern.mergeLiterals ps, p.Bounded := by
  fun_induction Pattern.mergeLiterals ps with
  | case1 a rest b rest' hmerged ih =>
      have hrest := ih fun p hp => h p (List.mem_cons_of_mem _ hp)
      rw [hmerged] at hrest
      intro p hp
      rcases List.mem_cons.mp hp with rfl | hp
      · trivial
      · exact hrest p (List.mem_cons_of_mem _ hp)
  | case2 a rest _ ih =>
      intro p hp
      rcases List.mem_cons.mp hp with rfl | hp
      · trivial
      · exact ih (fun p hp => h p (List.mem_cons_of_mem _ hp)) p hp
  | case3 q rest _ ih =>
      intro p hp
      rcases List.mem_cons.mp hp with rfl | hp
      · exact h p List.mem_cons_self
      · exact ih (fun p hp => h p (List.mem_cons_of_mem _ hp)) p hp
  | case4 => exact nofun

theorem Bounded.ofParts {ps : List Pattern} (h : ∀ p ∈ ps, p.Bounded) :
    (Pattern.ofParts ps).Bounded := by
  fun_induction Pattern.ofParts ps with
  | case1 => trivial
  | case2 p => exact h p List.mem_cons_self
  | case3 p rest _ ih =>
      exact ⟨h p List.mem_cons_self, ih fun q hq => h q (List.mem_cons_of_mem _ hq)⟩

theorem Bounded.sequence {ps : List Pattern} (h : ∀ p ∈ ps, p.Bounded) :
    (Pattern.sequence ps).Bounded := by
  refine Bounded.ofParts (Bounded.mergeLiterals fun q hq => ?_)
  obtain ⟨p, hp, hq⟩ := List.mem_flatMap.mp hq
  exact (h p hp).parts q hq

theorem Bounded.branches {p : Pattern} (h : p.Bounded) : ∀ q ∈ p.branches, q.Bounded := by
  induction p with
  | alt a b iha ihb =>
      intro q hq
      rcases List.mem_append.mp hq with hq | hq
      · exact iha h.1 q hq
      · exact ihb h.2 q hq
  | empty | literal | one | look | group | seq | many =>
      exact fun q hq => List.mem_singleton.mp hq ▸ h

theorem Bounded.ofBranches {ps : List Pattern} (h : ∀ p ∈ ps, p.Bounded) :
    (Pattern.ofBranches ps).Bounded := by
  fun_induction Pattern.ofBranches ps with
  | case1 => trivial
  | case2 p => exact h p List.mem_cons_self
  | case3 p rest _ ih =>
      exact ⟨h p List.mem_cons_self, ih fun q hq => h q (List.mem_cons_of_mem _ hq)⟩

theorem bounded_ofChars (s : CharSet) : (ofChars s).Bounded := by
  unfold ofChars
  split <;> trivial

theorem Bounded.joinBranches {ps : List Pattern} (h : ∀ p ∈ ps, p.Bounded) :
    (Pattern.joinBranches ps).Bounded := by
  have hbranches : ∀ q ∈ ps.flatMap Pattern.branches, q.Bounded := by
    intro q hq
    obtain ⟨p, hp, hq⟩ := List.mem_flatMap.mp hq
    exact (h p hp).branches q hq
  unfold Pattern.joinBranches
  dsimp only
  split
  · exact Bounded.ofBranches hbranches
  · split
    · exact bounded_ofChars _
    · exact bounded_ofChars _
    · exact Bounded.ofBranches hbranches

theorem mem_of_mem_commonStart {ps qs : List Pattern} {p : Pattern}
    (h : p ∈ commonStart ps qs) : p ∈ ps := by
  fun_induction commonStart ps qs with
  | case1 a as bs ih =>
      rcases List.mem_cons.mp h with rfl | h
      · exact List.mem_cons_self
      · exact List.mem_cons_of_mem _ (ih h)
  | case2 => cases h
  | case3 => cases h

/-- What branches have in common at their start is a part of the first. -/
theorem mem_of_mem_sharedStart {p : Pattern} {ps : List Pattern} (h : p ∈ sharedStart ps) :
    ∃ b ∈ ps, p ∈ b.parts := by
  cases ps with
  | nil => cases h
  | cons b bs =>
      simp only [sharedStart] at h
      split at h
      · have hfold : ∀ (bs start : List Pattern),
            p ∈ bs.foldl (fun start c => commonStart start c.parts) start → p ∈ start := by
          intro bs
          induction bs with
          | nil => exact fun _ h => h
          | cons c bs ih => exact fun start h => mem_of_mem_commonStart (ih _ h)
        exact ⟨b, List.mem_cons_self, hfold bs b.parts h⟩
      · cases h

theorem Bounded.alternatives {ps : List Pattern} (h : ∀ p ∈ ps, p.Bounded) :
    (Pattern.alternatives ps).Bounded := by
  have hjoined := Bounded.joinBranches h
  unfold Pattern.alternatives
  split
  · rename_i a b heq
    rw [heq] at hjoined
    have hbranches := hjoined.branches
    dsimp only
    split
    · exact hjoined
    · refine Bounded.sequence fun q hq => ?_
      rcases List.mem_append.mp hq with hq | hq
      · obtain ⟨c, hc, hq⟩ := mem_of_mem_sharedStart hq
        exact (hbranches c hc).parts q hq
      · rw [List.mem_singleton.mp hq]
        refine Bounded.joinBranches fun t ht => ?_
        obtain ⟨c, hc, rfl⟩ := List.mem_map.mp ht
        exact Bounded.sequence fun r hr => (hbranches c hc).parts r (List.mem_of_mem_drop hr)
  · exact hjoined

theorem Bounded.repeated {p : Pattern} (h : p.Bounded) {least : Nat} {most : Option Nat}
    (hbounds : ∀ m ∈ most, least ≤ m) (greedy : Bool) :
    (Pattern.repeated p least most greedy).Bounded := by
  unfold Pattern.repeated
  dsimp only
  by_cases hempty : p.longest = some 0
  · simp only [hempty, if_true]
    split
    · trivial
    · split
      · exact h
      · refine ⟨h, ?_⟩
        rintro _ ⟨⟩
        cases most with
        | none =>
            simp only [Option.getD_none]
            omega
        | some m =>
            have := hbounds m rfl
            simp only [Option.getD_some]
            omega
  · simp only [hempty, if_false]
    split
    · trivial
    · split
      · exact h
      · exact ⟨h, hbounds⟩

end Pattern
end ProvisionWatch

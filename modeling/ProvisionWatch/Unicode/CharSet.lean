import ProvisionWatch.Text.Hexadecimal
import ProvisionWatch.Text.Split

/-!
# Sets of characters

A set of characters is a list of stretches of character numbers, in order and
with something between any two of them, so that equal sets are equal lists.
Sets are also written as tables: words of numbers to base sixteen, each of
them one number, a stretch, or a stretch of which every so many numbers count.

Main results:

- Theorem `mem_ofStretches`: a set has the members of the stretches it is made from.
- Theorem `mem_union`: a union holds what one of its parts holds.
- Theorem `mem_inter`: an intersection holds what both of its parts hold.
-/

namespace ProvisionWatch

/-- The numbers from the first to the last. -/
structure Stretch where
  first : Nat
  last : Nat
deriving DecidableEq, Repr

namespace Stretch

/-- Whether a number lies in a stretch. -/
def holds (s : Stretch) (n : Nat) : Bool :=
  s.first ≤ n && n ≤ s.last

/-- The stretch of one number. -/
def single (n : Nat) : Stretch :=
  { first := n, last := n }

/-- The stretch between two numbers, in whichever order they are. -/
def between (a b : Nat) : Stretch :=
  { first := min a b, last := max a b }

/-- What two stretches share. -/
def meet (s t : Stretch) : Option Stretch :=
  if max s.first t.first ≤ min s.last t.last then
    some { first := max s.first t.first, last := min s.last t.last }
  else
    none

/-- A stretch holds what lies between its ends. -/
@[simp, grind =]
theorem holds_iff (s : Stretch) (n : Nat) : s.holds n = true ↔ s.first ≤ n ∧ n ≤ s.last := by
  simp [holds]

end Stretch

/-- A set of characters. -/
structure CharSet where
  stretches : List Stretch
deriving DecidableEq, Repr

namespace CharSet

/-! ## Members -/

/-- Whether a number is in a set. -/
def has (s : CharSet) (n : Nat) : Bool :=
  s.stretches.any fun t => t.holds n

/-- Whether a character is in a set. -/
def mem (s : CharSet) (c : Char) : Bool :=
  s.has c.toNat

/-- Run stretches that touch or overlap into one; they come in the order of their first numbers. -/
def joined : List Stretch → List Stretch
  | s :: t :: rest =>
      if t.first ≤ s.last + 1 then
        joined ({ first := s.first, last := max s.last t.last } :: rest)
      else
        s :: joined (t :: rest)
  | rest => rest
termination_by ss => ss.length

/-- The set of all numbers in some stretches. -/
def ofStretches (ss : List Stretch) : CharSet :=
  { stretches := joined (ss.mergeSort fun s t => s.first ≤ t.first) }

/-- The set without members. -/
def empty : CharSet :=
  { stretches := [] }

/-- The set of one number. -/
def single (n : Nat) : CharSet :=
  { stretches := [.single n] }

/-- The greatest number of a character. -/
def greatest : Nat := 1114111

/-- The set of all characters. -/
def all : CharSet :=
  { stretches := [{ first := 0, last := greatest }] }

/-- The set of some characters. -/
def ofNumbers (ns : List Nat) : CharSet :=
  ofStretches (ns.map Stretch.single)

/-- Whether all members are ASCII characters. -/
def isAscii (s : CharSet) : Bool :=
  s.stretches.all fun t => t.last < 128

/-- The only member, if there is just one. -/
def only? (s : CharSet) : Option Nat :=
  match s.stretches with
  | [t] => if t.first = t.last then some t.first else none
  | _ => none

/-- Joining stretches that are in order neither adds nor loses a character. -/
theorem has_joined (ss : List Stretch) (h : ss.Pairwise fun s t => s.first ≤ t.first) (n : Nat) :
    (joined ss).any (fun t => t.holds n) = ss.any fun t => t.holds n := by
  fun_induction joined ss with
  | case1 s t rest touches ih =>
      rw [List.pairwise_cons, List.pairwise_cons] at h
      have hst : s.first ≤ t.first := h.1 t (by simp)
      rw [ih (List.pairwise_cons.2 ⟨fun u hu => h.1 u (by simp [hu]), h.2.2⟩)]
      simp only [List.any_cons, ← Bool.or_assoc]
      congr 1
      grind
  | case2 s t rest apart ih =>
      simp only [List.any_cons, ih h.tail]
  | case3 => rfl

/-- A set holds what one of its stretches holds. -/
@[simp, grind =]
theorem mem_ofStretches (ss : List Stretch) (n : Nat) :
    (ofStretches ss).has n = true ↔ ∃ t ∈ ss, t.holds n = true := by
  have sorted : (ss.mergeSort fun s t => s.first ≤ t.first).Pairwise
      fun s t => s.first ≤ t.first := by
    refine (List.pairwise_mergeSort ?_ ?_ ss).imp (by simp)
    · intro a b c hab hbc
      simp only [decide_eq_true_eq] at *
      omega
    · intro a b
      simp only [Bool.or_eq_true, decide_eq_true_eq]
      omega
  simp [has, ofStretches, has_joined _ sorted]

/-! ## Putting sets together -/

/-- What is in one of two sets. -/
def union (a b : CharSet) : CharSet :=
  ofStretches (a.stretches ++ b.stretches)

/-- What is in one of several sets. -/
def unions (sets : List CharSet) : CharSet :=
  ofStretches (sets.flatMap CharSet.stretches)

/-- What is in both of two sets. -/
def inter (a b : CharSet) : CharSet :=
  { stretches := a.stretches.flatMap fun s => b.stretches.filterMap s.meet }

/-- A union holds what is in one of two sets. -/
@[simp, grind =]
theorem mem_union (a b : CharSet) (n : Nat) :
    (a.union b).has n = true ↔ a.has n = true ∨ b.has n = true := by
  rw [union, mem_ofStretches]
  simp [has, or_and_right, exists_or]

/-- The union of several sets holds what is in one of them. -/
@[simp, grind =]
theorem mem_unions (sets : List CharSet) (n : Nat) :
    (unions sets).has n = true ↔ ∃ s ∈ sets, s.has n = true := by
  rw [unions, mem_ofStretches]
  simp only [has, List.mem_flatMap, List.any_eq_true]
  grind

/-- An intersection holds what is in both sets. -/
@[simp, grind =]
theorem mem_inter (a b : CharSet) (n : Nat) :
    (a.inter b).has n = true ↔ a.has n = true ∧ b.has n = true := by
  simp only [inter, has, List.any_eq_true, List.mem_flatMap, List.mem_filterMap, Stretch.meet]
  constructor
  · rintro ⟨u, ⟨s, hs, t, ht, hu⟩, hn⟩
    split at hu
    · cases hu
      exact ⟨⟨s, hs, by grind⟩, ⟨t, ht, by grind⟩⟩
    · cases hu
  · rintro ⟨⟨s, hs, hsn⟩, ⟨t, ht, htn⟩⟩
    have hmeet : max s.first t.first ≤ min s.last t.last := by grind
    exact ⟨_, ⟨s, hs, t, ht, if_pos hmeet⟩, by grind⟩

/-! ## Complements

Between the last character below the surrogates and the first one above them
there is no character, so these two count as neighbours.
-/

/-- The last character below the surrogates. -/
def belowSurrogates : Nat := 55295

/-- The first character above the surrogates. -/
def aboveSurrogates : Nat := 57344

/-- The next character. -/
def next (n : Nat) : Nat :=
  if n = belowSurrogates then aboveSurrogates else n + 1

/-- The character before. -/
def previous (n : Nat) : Nat :=
  if n = aboveSurrogates then belowSurrogates else n - 1

/-- What lies behind the last of some stretches, and between each two of them. -/
def gaps : List Stretch → List Stretch
  | [] => []
  | [s] => if s.last < greatest then [{ first := next s.last, last := greatest }] else []
  | s :: t :: rest => .between (next s.last) (previous t.first) :: gaps (t :: rest)

/-- The characters that are not in a set. -/
def complement (s : CharSet) : CharSet :=
  match s.stretches with
  | [] => all
  | t :: rest =>
      let front := if 0 < t.first then [{ first := 0, last := previous t.first }] else []
      { stretches := front ++ gaps (t :: rest) }

/-- What is left of a stretch without another one. -/
def stretchWithout (s t : Stretch) : List Stretch :=
  if s.last < t.first ∨ t.last < s.first then
    [s]
  else
    (if s.first < t.first then [{ first := s.first, last := previous t.first }] else []) ++
      (if t.last < s.last then [{ first := next t.last, last := s.last }] else [])

/-- What is in the first set and not in the second. -/
def without (a b : CharSet) : CharSet :=
  { stretches :=
      b.stretches.foldl (fun ss t => ss.flatMap fun s => stretchWithout s t) a.stretches }

/-- What is in exactly one of two sets. -/
def either (a b : CharSet) : CharSet :=
  (a.union b).without (a.inter b)

/-! ## Tables -/

/-- The stretches of one word of a table. -/
def wordStretches (word : List Char) : List Stretch :=
  match Text.cut '-' word with
  | none => [.single (Text.hexValue word)]
  | some (first, rest) =>
      match Text.cut '/' rest with
      | none => [{ first := Text.hexValue first, last := Text.hexValue rest }]
      | some (last, step) =>
          let first := Text.hexValue first
          let count := (Text.hexValue last - first) / Text.hexValue step
          (List.range (count + 1)).map fun i => .single (first + i * Text.hexValue step)

/-- The set written in a table. -/
def ofTable (table : String) : CharSet :=
  ofStretches ((Text.words table).flatMap wordStretches)

end CharSet
end ProvisionWatch

import Mathlib.Data.List.DropRight
import ProvisionWatch.Text.Blank
import ProvisionWatch.Text.Split

/-!
# Stripping and splitting

What is left of a text that is stripped can be told without saying how it is stripped:
all that was taken away passes a test, and what is left neither begins nor ends with a
character that does.

Main results:

- Theorem `stripped_iff`: what is left of a stripped text.
- Theorem `pieces_eq_splitOn`: pieces are what the core library splits a list into.
- Theorem `pieces_eq_pair_iff`: a text has two pieces if it has one separator.
-/

namespace ProvisionWatch
namespace Text

variable {test : Char → Bool} {cs core : List Char}

/-! ## Stripping -/

/-- A text does not begin with a character that passes a test. -/
def NotBefore (test : Char → Bool) (cs : List Char) : Prop :=
  ∀ c, cs.head? = some c → test c = false

/-- A text does not end with a character that passes a test. -/
def NotBehind (test : Char → Bool) (cs : List Char) : Prop :=
  ∀ c, cs.getLast? = some c → test c = false

instance : Decidable (NotBefore test cs) :=
  decidable_of_iff (cs.head?.all (!test ·) = true) (by simp [NotBefore, Option.all_eq_true])

instance : Decidable (NotBehind test cs) :=
  decidable_of_iff (cs.getLast?.all (!test ·) = true) (by simp [NotBehind, Option.all_eq_true])

/-- What is left of a text when the characters that pass a test are taken away at both ends. -/
structure Stripped (test : Char → Bool) (cs core : List Char) : Prop where
  around : ∃ front back, cs = front ++ core ++ back ∧ (∀ c ∈ front, test c = true) ∧
    ∀ c ∈ back, test c = true
  front : NotBefore test core
  back : NotBehind test core

theorem notBefore_dropWhile (test : Char → Bool) (cs : List Char) :
    NotBefore test (cs.dropWhile test) := by
  intro c hc
  simpa [hc] using List.head?_dropWhile_not test cs

theorem dropWhile_of_notBefore (h : NotBefore test cs) : cs.dropWhile test = cs := by
  cases cs with
  | nil => rfl
  | cons c rest => exact List.dropWhile_cons_of_neg (Bool.not_eq_true _ ▸ h c rfl)

theorem notBehind_iff_reverse : NotBehind test cs ↔ NotBefore test cs.reverse := by
  rw [NotBehind, NotBefore, List.head?_reverse]

theorem notBehind_dropEndWhile (test : Char → Bool) (cs : List Char) :
    NotBehind test (dropEndWhile test cs) := by
  rw [notBehind_iff_reverse, dropEndWhile, List.reverse_reverse]
  exact notBefore_dropWhile test cs.reverse

theorem dropEndWhile_of_notBehind (h : NotBehind test cs) : dropEndWhile test cs = cs := by
  rw [dropEndWhile, dropWhile_of_notBefore (notBehind_iff_reverse.mp h), List.reverse_reverse]

/-- What is dropped at the end passes the test. -/
theorem exists_dropEndWhile_append (test : Char → Bool) (cs : List Char) :
    ∃ back, cs = dropEndWhile test cs ++ back ∧ ∀ c ∈ back, test c = true :=
  ⟨cs.rtakeWhile test, List.rdropWhile_append_rtakeWhile.symm, fun _ => List.mem_rtakeWhile_imp⟩

theorem dropEndWhile_append {back : List Char} (hback : ∀ c ∈ back, test c = true) :
    dropEndWhile test (cs ++ back) = dropEndWhile test cs := by
  rw [dropEndWhile, List.reverse_append,
    List.dropWhile_append_of_pos fun c hc => hback c (List.mem_reverse.mp hc), dropEndWhile]

/-- What is left in front does not change when the end is taken away. -/
theorem NotBefore.dropEndWhile (h : NotBefore test cs) : NotBefore test (dropEndWhile test cs) := by
  obtain ⟨back, hcs, -⟩ := exists_dropEndWhile_append test cs
  intro c hc
  refine h c ?_
  rw [hcs, List.head?_append, hc, Option.some_or]

/-- What a text is stripped to is what is left of it when its front and its end are dropped. -/
theorem stripped_iff :
    Stripped test cs core ↔ dropEndWhile test (cs.dropWhile test) = core := by
  constructor
  · rintro ⟨⟨front, back, rfl, hfront, hback⟩, hbefore, hbehind⟩
    rw [List.append_assoc, List.dropWhile_append_of_pos hfront]
    cases core with
    | nil => rw [List.nil_append, List.dropWhile_eq_nil_iff.mpr hback]; rfl
    | cons c rest =>
        rw [List.cons_append, List.dropWhile_cons_of_neg (Bool.not_eq_true _ ▸ hbefore c rfl),
          ← List.cons_append, dropEndWhile_append hback, dropEndWhile_of_notBehind hbehind]
  · rintro rfl
    obtain ⟨back, hrest, hback⟩ := exists_dropEndWhile_append test (cs.dropWhile test)
    refine ⟨⟨cs.takeWhile test, back, ?_, fun _ => List.mem_takeWhile_imp, hback⟩,
      (notBefore_dropWhile test cs).dropEndWhile, notBehind_dropEndWhile test _⟩
    rw [List.append_assoc, ← hrest, List.takeWhile_append_dropWhile]

/-- A text whose ends do not pass the test is stripped already. -/
theorem Stripped.refl (hfront : NotBefore test cs) (hback : NotBehind test cs) :
    Stripped test cs cs :=
  ⟨⟨[], [], by simp, nofun, nofun⟩, hfront, hback⟩

theorem Stripped.subset (h : Stripped test cs core) : core ⊆ cs := by
  obtain ⟨front, back, rfl, -, -⟩ := h.around
  intro c hc
  simp [hc]

theorem notBefore_of_not_mem {c : Char} (h : c ∉ cs) : NotBefore (· == c) cs :=
  fun _ hd => beq_eq_false_iff_ne.mpr (ne_of_mem_of_not_mem (List.mem_of_head? hd) h)

theorem notBehind_of_not_mem {c : Char} (h : c ∉ cs) : NotBehind (· == c) cs :=
  fun _ hd => beq_eq_false_iff_ne.mpr (ne_of_mem_of_not_mem (List.mem_of_getLast? hd) h)

theorem NotBefore.append (h : NotBefore test cs) (hcs : cs ≠ []) (more : List Char) :
    NotBefore test (cs ++ more) := by
  cases cs with
  | nil => exact absurd rfl hcs
  | cons c rest => exact h

theorem NotBehind.append (h : NotBehind test cs) (hcs : cs ≠ []) (front : List Char) :
    NotBehind test (front ++ cs) := by
  intro c hc
  rw [List.getLast?_append_of_ne_nil front hcs] at hc
  exact h c hc

/-- A character that does not pass the test is left when the front is dropped. -/
theorem mem_dropWhile_of_mem {c : Char} (hc : c ∈ cs) (htest : test c = false) :
    c ∈ cs.dropWhile test := by
  rw [← List.takeWhile_append_dropWhile (p := test) (l := cs)] at hc
  rcases List.mem_append.mp hc with hfront | hrest
  · rw [List.mem_takeWhile_imp hfront] at htest
    cases htest
  · exact hrest

/-- A character that does not pass the test is left when the end is dropped. -/
theorem mem_dropEndWhile_of_mem {c : Char} (hc : c ∈ cs) (htest : test c = false) :
    c ∈ Text.dropEndWhile test cs :=
  List.mem_reverse.mpr (mem_dropWhile_of_mem (List.mem_reverse.mpr hc) htest)

theorem dropEndWhile_subset (test : Char → Bool) (cs : List Char) :
    Text.dropEndWhile test cs ⊆ cs := by
  intro c hc
  exact List.mem_reverse.mp ((List.dropWhile_suffix test).subset (List.mem_reverse.mp hc))

theorem trimChars_iff : trimChars cs = core ↔ Stripped isBlank cs core :=
  stripped_iff.symm

/-! ## Splitting -/

theorem cut_eq_none_iff {sep : Char} : cut sep cs = none ↔ sep ∉ cs := by
  induction cs with
  | nil => simp
  | cons c rest ih =>
      by_cases hc : c = sep
      · simp [hc]
      · simp [hc, ih, Ne.symm hc]

theorem pieces_eq_splitOn (sep : Char) (cs : List Char) : pieces sep cs = cs.splitOn sep := by
  induction cs with
  | nil => rfl
  | cons c rest ih =>
      rw [pieces, List.splitOn_cons_eq_if_modifyHead, ← ih]
      by_cases hc : c = sep
      · simp [hc]
      · cases hpieces : pieces sep rest with
        | nil => exact absurd hpieces (pieces_ne_nil sep rest)
        | cons w ws => simp [hc]

/-- No piece has the separator in it. -/
theorem not_mem_of_mem_pieces {sep : Char} {piece : List Char} (h : piece ∈ pieces sep cs) :
    sep ∉ piece := by
  induction cs generalizing piece with
  | nil =>
      obtain rfl := List.mem_singleton.mp h
      exact List.not_mem_nil
  | cons c rest ih =>
      rw [pieces] at h
      split at h
      · rcases List.mem_cons.mp h with rfl | h
        · exact List.not_mem_nil
        · exact ih h
      · rename_i hc
        cases hpieces : pieces sep rest with
        | nil => exact absurd hpieces (pieces_ne_nil sep rest)
        | cons w ws =>
            simp only [hpieces, List.mem_cons] at h ih
            rcases h with rfl | h
            · exact List.not_mem_cons_of_ne_of_not_mem (Ne.symm hc) (ih (.inl rfl))
            · exact ih (.inr h)

/-- A text has two pieces exactly if it has one separator, which stands between them. -/
theorem pieces_eq_pair_iff {sep : Char} {a b : List Char} :
    pieces sep cs = [a, b] ↔ cs = a ++ sep :: b ∧ sep ∉ a ∧ sep ∉ b := by
  constructor
  · intro h
    refine ⟨?_, not_mem_of_mem_pieces (h ▸ List.mem_cons_self),
      not_mem_of_mem_pieces (h ▸ List.mem_cons_of_mem a List.mem_cons_self)⟩
    have hcs : [sep].intercalate (cs.splitOn sep) = cs := List.intercalate_splitOn sep
    rw [← hcs, ← pieces_eq_splitOn, h]
    simp
  · rintro ⟨rfl, ha, hb⟩
    rw [pieces_eq_splitOn, List.splitOn_append_cons_self_of_not_mem ha,
      List.splitOn_eq_singleton hb]

end Text
end ProvisionWatch

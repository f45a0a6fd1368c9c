import Mathlib.Data.Nat.Digits.Defs
import Mathlib.Tactic.Ring
import ProvisionWatch.Proofs.Text.Stripping
import ProvisionWatch.Text.Decimal

/-!
# Numerals

Digits stand for a number by their places, whatever reads them.  As people write a
number, it may have blanks around it, a plus sign in front, and any number of leading
zeros.

Main results:

- Theorem `ofDigits_eq_some_iff`: which texts are read as which numbers.
- Theorem `readSigned_trimChars_iff`: what is read as a positive number.
- Theorem `denotes_digits`: the digits of a number denote it.
-/

namespace ProvisionWatch
namespace Text

/-! ## Digits -/

/-- The number that digits stand for by their places. -/
def placeValue (ds : List Char) : Nat :=
  Nat.ofDigits 10 (ds.reverse.map fun d => d.toNat - 48)

theorem placeValue_cons (d : Char) (ds : List Char) :
    placeValue (d :: ds) = placeValue ds + 10 ^ ds.length * (d.toNat - 48) := by
  simp [placeValue, Nat.ofDigits_append]

theorem digitValue?_eq_some_iff {c : Char} {n : Nat} :
    digitValue? c = some n ↔ c.isDigit = true ∧ n = c.toNat - 48 := by
  have hdigit : ('0' ≤ c ∧ c ≤ '9') ↔ c.isDigit = true := by
    rw [Char.isDigit, Bool.and_eq_true, decide_eq_true_eq, decide_eq_true_eq]
    rfl
  rw [digitValue?]
  split
  · rename_i h
    exact ⟨fun hn => ⟨hdigit.mp h, (Option.some.inj hn).symm⟩, fun hn => congrArg some hn.2.symm⟩
  · rename_i h
    exact ⟨nofun, fun hn => absurd (hdigit.mpr hn.1) h⟩

theorem readDigits_eq_some_iff {value n : Nat} {ds : List Char} :
    readDigits value ds = some n ↔
      (∀ d ∈ ds, d.isDigit = true) ∧ n = value * 10 ^ ds.length + placeValue ds := by
  induction ds generalizing value with
  | nil => simp [placeValue, eq_comm (a := value)]
  | cons d ds ih =>
      simp only [readDigits, Option.bind_eq_some_iff, digitValue?_eq_some_iff, ih, placeValue_cons,
        List.forall_mem_cons, List.length_cons]
      have hplaces : ∀ k, (value * 10 + k) * 10 ^ ds.length + placeValue ds =
          value * 10 ^ (ds.length + 1) + (placeValue ds + 10 ^ ds.length * k) := by
        intro k
        ring
      constructor
      · rintro ⟨k, ⟨hd, rfl⟩, hds, rfl⟩
        exact ⟨⟨hd, hds⟩, hplaces _⟩
      · rintro ⟨⟨hd, hds⟩, rfl⟩
        exact ⟨_, ⟨hd, rfl⟩, hds, (hplaces _).symm⟩

/-- What is read as a number are digits, at least one, and the number is theirs. -/
theorem ofDigits_eq_some_iff {ds : List Char} {n : Nat} :
    ofDigits ds = some n ↔ ds ≠ [] ∧ (∀ d ∈ ds, d.isDigit = true) ∧ placeValue ds = n := by
  cases ds with
  | nil => simp [ofDigits]
  | cons d ds =>
      show readDigits 0 (d :: ds) = some n ↔ _
      rw [readDigits_eq_some_iff, Nat.zero_mul, Nat.zero_add, eq_comm (a := n)]
      simp

theorem ofDigits_cons_of_not_digit {c : Char} (hc : c.isDigit = false) (ds : List Char) (n : Nat) :
    ofDigits (c :: ds) ≠ some n := by
  intro h
  have hall := (ofDigits_eq_some_iff.mp h).2.1 c List.mem_cons_self
  rw [hc] at hall
  cases hall

/-- A number is positive only without a minus sign; a plus sign adds nothing to it. -/
theorem readSigned_pos_iff {cs : List Char} {n : Nat} (hn : 0 < n) :
    readSigned cs = some (n : Int) ↔
      ∃ sign ds, cs = sign ++ ds ∧ (sign = [] ∨ sign = ['+']) ∧ ofDigits ds = some n := by
  have hplain : ∀ ds, Option.map (fun k : Nat => (k : Int)) (ofDigits ds) = some (n : Int) ↔
      ofDigits ds = some n := by
    intro ds
    rw [Option.map_eq_some_iff]
    refine ⟨?_, fun h => ⟨n, h, rfl⟩⟩
    rintro ⟨k, hk, hkn⟩
    rw [hk, Int.ofNat.inj hkn]
  unfold readSigned
  split
  · rename_i ds
    refine iff_of_false ?_ ?_
    · cases ofDigits ds with
      | none => exact nofun
      | some k =>
          intro h
          have hneg : -(k : Int) = n := Option.some.inj h
          omega
    · rintro ⟨sign, ds', hcs, rfl | rfl, hds'⟩
      · obtain rfl := hcs
        exact ofDigits_cons_of_not_digit rfl _ _ hds'
      · cases hcs
  · rename_i ds
    refine Iff.trans ?_ ⟨fun h => ⟨['+'], ds, rfl, .inr rfl, (hplain ds).mp h⟩, ?_⟩
    · cases ofDigits ds <;> rfl
    · rintro ⟨sign, ds', hcs, rfl | rfl, hds'⟩
      · obtain rfl := hcs
        exact absurd hds' (ofDigits_cons_of_not_digit rfl _ _)
      · obtain ⟨-, rfl⟩ := List.cons.inj hcs
        exact (hplain ds).mpr hds'
  · rename_i hminus hplus
    refine Iff.trans ?_ ⟨fun h => ⟨[], cs, rfl, .inl rfl, (hplain cs).mp h⟩, ?_⟩
    · cases ofDigits cs <;> rfl
    · rintro ⟨sign, ds', rfl, rfl | rfl, hds'⟩
      · exact (hplain ds').mpr hds'
      · exact absurd rfl (hplus ds')

/-! ## Numerals -/

/-- A text denotes a number: it is digits of the ASCII range, with a plus sign in front or none and
blanks around it all. -/
def Denotes (cs : List Char) (n : Nat) : Prop :=
  ∃ sign ds, Stripped isBlank cs (sign ++ ds) ∧ (sign = [] ∨ sign = ['+']) ∧ ds ≠ [] ∧
    (∀ d ∈ ds, d.isDigit = true) ∧ placeValue ds = n

/-- What is read as a positive number once its blanks are taken away denotes that number. -/
theorem readSigned_trimChars_iff {cs : List Char} {n : Nat} (hn : 0 < n) :
    readSigned (trimChars cs) = some (n : Int) ↔ Denotes cs n := by
  rw [readSigned_pos_iff hn]
  simp only [Denotes, ofDigits_eq_some_iff, trimChars_iff]

theorem not_isBlank_of_digit {c : Char} (h : (digitValue? c).isSome = true) :
    isBlank c = false := by
  unfold digitValue? at h
  split at h
  · rename_i hc
    obtain ⟨h₁, h₂⟩ := hc
    have h₁ : 48 ≤ c.toNat := h₁
    have h₂ : c.toNat ≤ 57 := h₂
    simp [isBlank]
    omega
  · cases h

theorem isDigit_of_mem_digits {n : Nat} : ∀ c ∈ digits n, c.isDigit = true :=
  (ofDigits_eq_some_iff.mp (ofDigits_digits n)).2.1

/-- The digits of a number denote it. -/
theorem denotes_digits (n : Nat) : Denotes (digits n) n := by
  have hvalue := (ofDigits_eq_some_iff.mp (ofDigits_digits n)).2.2
  refine ⟨[], digits n, Stripped.refl ?_ ?_, .inl rfl, digits_ne_nil n, isDigit_of_mem_digits,
    hvalue⟩
  · exact fun c hc => not_isBlank_of_digit (isSome_of_mem_digits c (List.mem_of_head? hc))
  · exact fun c hc => not_isBlank_of_digit (isSome_of_mem_digits c (List.mem_of_getLast? hc))

end Text
end ProvisionWatch

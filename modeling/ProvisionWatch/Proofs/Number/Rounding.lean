import Mathlib.Algebra.Order.Field.Power
import Mathlib.Tactic
import ProvisionWatch.Number.Double

/-!
# Rounding to double precision

A ratio is rounded to the number of double precision that is nearest to it, and
of two that are equally near to the one with the even mantissa.  This determines
the number, and there is none exactly if the ratio lies beyond the greatest
number by half of its last bit or more.

In units of its last bit every number above is a whole number, and so is every
number below, unless the mantissa is the least one of 53 bits; the numbers that
lie closer together are then at a distance already.

Main results:

- Theorems `abs_sub_roundRatio_le_half` and `even_roundRatio`: the whole number
  that is nearest to a ratio.
- Theorem `Rounded.eq`: a rational is rounded to one number only.
- Theorem `rounded_of_ofRatio?`: the number that a ratio is rounded to.
- Theorem `ofRatio?_eq_none_iff`: when there is none.
- Theorem `ofRatio?_eq_some_iff`: the two together.
- Theorems `rounded_of_mul?` and `rounded_of_div?`: a product or a quotient is
  rounded once.
-/

namespace ProvisionWatch
namespace Double

/-! ## Whole numbers near a ratio -/

section RoundRatio

variable {num den : Nat}

/-- The rounded ratio, times the denominator, is off by half of the denominator at most. -/
theorem roundRatio_bounds (num : Nat) (hden : 0 < den) :
    2 * num ≤ 2 * (den * roundRatio num den) + den ∧
      2 * (den * roundRatio num den) ≤ 2 * num + den := by
  have hdiv := Nat.div_add_mod num den
  have hmod := Nat.mod_lt num hden
  simp only [roundRatio]
  split
  · rw [Nat.mul_add]
    omega
  · omega

/-- A rounded ratio is off by half at most. -/
theorem abs_sub_roundRatio_le_half (num : Nat) (hden : 0 < den) :
    |(num : ℚ) / den - roundRatio num den| ≤ 1 / 2 := by
  have hpos : (0 : ℚ) < den := by exact_mod_cast hden
  obtain ⟨hlow, hhigh⟩ := roundRatio_bounds num hden
  have hlow' : (2 * num : ℚ) ≤ 2 * (den * roundRatio num den) + den := by exact_mod_cast hlow
  have hhigh' : (2 * (den * roundRatio num den) : ℚ) ≤ 2 * num + den := by exact_mod_cast hhigh
  have hratio : (num : ℚ) = num / den * den := (div_mul_cancel₀ _ hpos.ne').symm
  generalize (num : ℚ) / den = q at hratio ⊢
  rw [hratio] at hlow' hhigh'
  rw [abs_le]
  constructor <;> nlinarith

/-- A ratio in the middle of two whole numbers is rounded to the even one. -/
theorem even_roundRatio (hden : 0 < den)
    (h : |(num : ℚ) / den - roundRatio num den| = 1 / 2) : roundRatio num den % 2 = 0 := by
  have hpos : (0 : ℚ) < den := by exact_mod_cast hden
  have htie : 2 * num = 2 * (den * roundRatio num den) + den ∨
      2 * (den * roundRatio num den) = 2 * num + den := by
    have hratio : (num : ℚ) = num / den * den := (div_mul_cancel₀ _ hpos.ne').symm
    rcases (abs_eq (by norm_num)).mp h with h | h
    · left
      have : (2 * num : ℚ) = 2 * (den * roundRatio num den) + den := by
        rw [hratio]; linear_combination 2 * den * h
      exact_mod_cast this
    · right
      have : (2 * (den * roundRatio num den) : ℚ) = 2 * num + den := by
        rw [hratio]; linear_combination -2 * den * h
      exact_mod_cast this
  have hdiv := Nat.div_add_mod num den
  have hmod := Nat.mod_lt num hden
  simp only [roundRatio] at htie ⊢
  split <;> rename_i hup <;> simp only [hup, if_true, if_false] at htie
  · rw [Nat.mul_add] at htie
    omega
  · omega

/-- No whole number is nearer than one that is off by half at most. -/
theorem abs_sub_le_of_le_half {q : ℚ} {m : ℤ} (h : |q - m| ≤ 1 / 2) (k : ℤ) :
    |q - m| ≤ |q - k| := by
  rcases eq_or_ne m k with rfl | hne
  · rfl
  · have hone : (1 : ℚ) ≤ |(m : ℚ) - k| := by
      exact_mod_cast Int.one_le_abs (sub_ne_zero.mpr hne)
    have htriangle := abs_sub_le (m : ℚ) q k
    rw [abs_sub_comm (m : ℚ) q] at htriangle
    linarith

/-- Two whole numbers that are equally near are off by half at least. -/
theorem half_le_of_abs_sub_eq {q : ℚ} {m k : ℤ} (hne : m ≠ k) (h : |q - m| = |q - k|) :
    1 / 2 ≤ |q - m| := by
  have hone : (1 : ℚ) ≤ |(m : ℚ) - k| := by
    exact_mod_cast Int.one_le_abs (sub_ne_zero.mpr hne)
  have htriangle := abs_sub_le (m : ℚ) q k
  rw [abs_sub_comm (m : ℚ) q] at htriangle
  linarith

end RoundRatio

/-! ## Numbers as rationals -/

/-- The rational that a mantissa and an exponent stand for. -/
def toRat (x : Double) : ℚ :=
  x.mantissa * 2 ^ x.exponent

/-- A number of double precision: its mantissa has 53 bits, or fewer with the least exponent. -/
structure Sound (x : Double) : Prop where
  mantissa_lt : x.mantissa < 2 * fullMantissa
  least : leastExponent ≤ x.exponent
  greatest : x.exponent ≤ greatestExponent
  full : x.exponent = leastExponent ∨ fullMantissa ≤ x.mantissa

/-- A number is what a rational is rounded to. -/
structure Rounded (q : ℚ) (x : Double) : Prop where
  sound : x.Sound
  nearest : ∀ y : Double, y.Sound → |q - x.toRat| ≤ |q - y.toRat|
  even : ∀ y : Double, y.Sound → y.toRat ≠ x.toRat → |q - y.toRat| = |q - x.toRat| →
    x.mantissa % 2 = 0

section Units

variable {x y : Double} {q : ℚ} {e : Int}

theorem two_zpow_pos (e : Int) : (0 : ℚ) < 2 ^ e :=
  zpow_pos two_pos e

/-- Distances in a unit. -/
theorem abs_sub_eq_mul (q r : ℚ) {unit : ℚ} (hunit : 0 < unit) :
    |q - r| = |q / unit - r / unit| * unit := by
  rw [← sub_div, abs_div, abs_of_pos hunit, div_mul_cancel₀ _ hunit.ne']

/-- In units of a last bit that is not greater a number is whole. -/
theorem exists_int_toRat_div (x : Double) (h : e ≤ x.exponent) :
    ∃ k : ℤ, x.toRat / 2 ^ e = k := by
  obtain ⟨n, hn⟩ := Int.le.dest h
  refine ⟨x.mantissa * 2 ^ n, ?_⟩
  rw [div_eq_iff (two_zpow_pos e).ne', toRat, ← hn, zpow_add₀ two_ne_zero, zpow_natCast]
  push_cast
  ring

/-- In units of a greater last bit a number is below the least mantissa of 53 bits by half. -/
theorem Sound.toRat_div_le (hx : x.Sound) (h : x.exponent < e) :
    x.toRat / 2 ^ e ≤ fullMantissa - 1 / 2 := by
  have hmantissa : (x.mantissa : ℚ) ≤ 2 * fullMantissa - 1 := by
    have : x.mantissa + 1 ≤ 2 * fullMantissa := hx.mantissa_lt
    have : (x.mantissa + 1 : ℚ) ≤ 2 * fullMantissa := by exact_mod_cast this
    linarith
  have hpower : (2 : ℚ) ^ x.exponent ≤ 2 ^ e / 2 := by
    rw [div_eq_mul_inv, ← zpow_sub_one₀ two_ne_zero]
    exact zpow_le_zpow_right₀ one_le_two (by omega)
  rw [div_le_iff₀ (two_zpow_pos e)]
  calc x.toRat ≤ (2 * fullMantissa - 1) * (2 ^ e / 2) := by
        refine mul_le_mul hmantissa hpower (two_zpow_pos _).le ?_
        norm_num [fullMantissa]
    _ = (fullMantissa - 1 / 2) * 2 ^ e := by ring

/-- What is nearest in units of a last bit is nearest of all numbers, provided that the numbers
with a smaller one lie below. -/
theorem rounded_of_near {m : ℤ} (hx : x.Sound) (hvalue : x.toRat / 2 ^ e = m)
    (hnear : |q / 2 ^ e - m| ≤ 1 / 2)
    (hunit : e = leastExponent ∨ fullMantissa ≤ q / 2 ^ e)
    (heven : |q / 2 ^ e - m| = 1 / 2 → x.mantissa % 2 = 0) : Rounded q x := by
  have hpos := two_zpow_pos e
  have hfar : ∀ y : Double, y.Sound → y.exponent < e →
      |q / 2 ^ e - m| < |q / 2 ^ e - y.toRat / 2 ^ e| := by
    intro y hy hlt
    have hfull : (fullMantissa : ℚ) ≤ q / 2 ^ e :=
      hunit.resolve_left (by have := hy.least; omega)
    have hbelow := hy.toRat_div_le hlt
    calc |q / 2 ^ e - m| ≤ |q / 2 ^ e - (fullMantissa : ℤ)| := abs_sub_le_of_le_half hnear _
      _ = q / 2 ^ e - fullMantissa := abs_of_nonneg (by simpa using hfull)
      _ < q / 2 ^ e - y.toRat / 2 ^ e := by linarith
      _ ≤ |q / 2 ^ e - y.toRat / 2 ^ e| := le_abs_self _
  refine ⟨hx, fun y hy => ?_, fun y hy hne heq => ?_⟩
  · rw [abs_sub_eq_mul q _ hpos, abs_sub_eq_mul q y.toRat hpos, hvalue]
    refine mul_le_mul_of_nonneg_right ?_ hpos.le
    rcases lt_or_ge y.exponent e with hlt | hge
    · exact (hfar y hy hlt).le
    · obtain ⟨k, hk⟩ := exists_int_toRat_div y hge
      rw [hk]
      exact abs_sub_le_of_le_half hnear k
  · rw [abs_sub_eq_mul q _ hpos, abs_sub_eq_mul q x.toRat hpos, hvalue] at heq
    have heq := (mul_right_cancel₀ hpos.ne' heq).symm
    rcases lt_or_ge y.exponent e with hlt | hge
    · exact absurd heq (hfar y hy hlt).ne
    · obtain ⟨k, hk⟩ := exists_int_toRat_div y hge
      have hk' : m ≠ k := by
        rintro rfl
        exact hne ((div_left_inj' hpos.ne').mp (hk.trans hvalue.symm))
      rw [hk] at heq
      exact heven (le_antisymm hnear (half_le_of_abs_sub_eq hk' heq))

end Units

/-! ## One number only -/

section Unique

variable {x y : Double} {q : ℚ}

/-- The next number above lies a last bit away, and so does the next one below, unless the mantissa
is the least one of 53 bits. -/
theorem Sound.apart (hx : x.Sound) (hy : y.Sound) (hne : y.toRat ≠ x.toRat) :
    (x.mantissa : ℚ) + 1 ≤ y.toRat / 2 ^ x.exponent ∨
      y.toRat / 2 ^ x.exponent ≤ (x.mantissa : ℚ) - 1 ∨
        x.mantissa = fullMantissa ∧ leastExponent < x.exponent ∧
          y.toRat / 2 ^ x.exponent ≤ (x.mantissa : ℚ) - 1 / 2 := by
  rcases lt_or_ge y.exponent x.exponent with hlt | hge
  · have hbelow := hy.toRat_div_le hlt
    have hleast : leastExponent < x.exponent := lt_of_le_of_lt hy.least hlt
    rcases (hx.full.resolve_left hleast.ne').eq_or_lt with hfull | hfull
    · exact .inr (.inr ⟨hfull.symm, hleast, by rwa [← hfull]⟩)
    · have : (fullMantissa : ℚ) + 1 ≤ x.mantissa := by exact_mod_cast hfull
      exact .inr (.inl (by linarith))
  · obtain ⟨k, hk⟩ := exists_int_toRat_div y hge
    have hne : k ≠ x.mantissa := by
      rintro rfl
      refine hne ((div_left_inj' (two_zpow_pos x.exponent).ne').mp (hk.trans ?_))
      rw [toRat, mul_div_cancel_right₀ _ (two_zpow_pos _).ne']
      norm_cast
    rw [hk]
    rcases lt_or_gt_of_ne hne with h | h
    · exact .inr (.inl (by rw [le_sub_iff_add_le]; exact_mod_cast h))
    · exact .inl (by exact_mod_cast h)

/-- In units of its last bit a number is its mantissa. -/
@[simp]
theorem toRat_div (x : Double) : x.toRat / 2 ^ x.exponent = x.mantissa :=
  mul_div_cancel_right₀ _ (two_zpow_pos _).ne'

theorem Sound.exponent_le_of_toRat_eq (hx : x.Sound) (hy : y.Sound) (h : x.toRat = y.toRat) :
    y.exponent ≤ x.exponent := by
  by_contra hlt
  have hbelow := hx.toRat_div_le (not_le.mp hlt)
  rw [h, toRat_div] at hbelow
  have hfull : fullMantissa ≤ y.mantissa :=
    hy.full.resolve_left (by have := hx.least; omega)
  have hfull' : (fullMantissa : ℚ) ≤ y.mantissa := by exact_mod_cast hfull
  linarith

/-- A number has one mantissa and one exponent. -/
theorem Sound.eq_of_toRat_eq (hx : x.Sound) (hy : y.Sound) (h : x.toRat = y.toRat) : x = y := by
  have hexponent : x.exponent = y.exponent :=
    le_antisymm (hy.exponent_le_of_toRat_eq hx h.symm) (hx.exponent_le_of_toRat_eq hy h)
  have hmantissa := toRat_div x
  rw [h, hexponent, toRat_div] at hmantissa
  cases x
  cases y
  simp_all

/-- Of two numbers that are equally near the lower one is followed by a nearer one, or by the upper
one with an odd mantissa. -/
theorem Rounded.not_toRat_lt (hx : Rounded q x) (hy : Rounded q y) : ¬ x.toRat < y.toRat := by
  intro hlt
  have htie : |q - x.toRat| = |q - y.toRat| :=
    le_antisymm (hx.nearest y hy.sound) (hy.nearest x hx.sound)
  have hxeven := hx.even y hy.sound hlt.ne' htie.symm
  have hyeven := hy.even x hx.sound hlt.ne htie
  have hmiddle : q - x.toRat = y.toRat - q := by
    rcases abs_eq_abs.mp htie with h | h <;> linarith
  let z : Double := { x with mantissa := x.mantissa + 1 }
  have hz : z.Sound :=
    ⟨by have := hx.sound.mantissa_lt; simp only [z, fullMantissa] at this ⊢; omega,
      hx.sound.least, hx.sound.greatest, hx.sound.full.imp_right fun h => h.trans (Nat.le_succ _)⟩
  have hzvalue : z.toRat = x.toRat + 2 ^ x.exponent := by
    simp only [z, toRat]
    push_cast
    ring
  have hpos := two_zpow_pos x.exponent
  have hnext : z.toRat ≤ y.toRat := by
    rw [hzvalue]
    rcases hx.sound.apart hy.sound hlt.ne' with h | h | ⟨-, -, h⟩
    · rw [le_div_iff₀ hpos] at h
      simp only [toRat] at h ⊢
      linarith
    all_goals
      rw [div_le_iff₀ hpos] at h
      simp only [toRat] at h hlt
      linarith
  rcases hnext.eq_or_lt with heq | hlt'
  · have hodd : y.mantissa = x.mantissa + 1 :=
      congrArg mantissa (hz.eq_of_toRat_eq hy.sound heq).symm
    omega
  · have hnearer : |q - z.toRat| < |q - x.toRat| := by
      rw [abs_of_nonneg (by linarith : 0 ≤ q - x.toRat), abs_lt]
      constructor <;> linarith
    exact absurd (hx.nearest z hz) (not_le.mpr hnearer)

/-- A rational is rounded to one number only. -/
theorem Rounded.eq (hx : Rounded q x) (hy : Rounded q y) : x = y :=
  hx.sound.eq_of_toRat_eq hy.sound
    (le_antisymm (not_lt.mp (hy.not_toRat_lt hx)) (not_lt.mp (hx.not_toRat_lt hy)))

end Unique

/-! ## The exponent of a ratio -/

section Exponent

variable {num den : Nat}

theorem inUnits_spec (num : Nat) (hden : 0 < den) (e : Int) :
    0 < (inUnits num den e).2 ∧
      ((inUnits num den e).1 : ℚ) / (inUnits num den e).2 = num / den / 2 ^ e := by
  unfold inUnits
  split <;> rename_i he
  · obtain ⟨n, rfl⟩ := Int.eq_ofNat_of_zero_le he
    refine ⟨Nat.mul_pos hden (Nat.pow_pos two_pos), ?_⟩
    simp [div_div]
  · obtain ⟨n, rfl⟩ := Int.exists_eq_neg_ofNat (not_le.mp he).le
    refine ⟨hden, ?_⟩
    simp only [Int.natAbs_neg, Int.natAbs_natCast, zpow_neg, zpow_natCast, Nat.pow_eq]
    push_cast
    field_simp

/-- A ratio lies between two powers of two that are two apart. -/
theorem ratio_bounds (hnum : 0 < num) (hden : 0 < den) :
    2 ^ ((Nat.log2 num : Int) - Nat.log2 den - 1) < (num : ℚ) / den ∧
      (num : ℚ) / den < 2 ^ ((Nat.log2 num : Int) - Nat.log2 den + 1) := by
  have hpos : (0 : ℚ) < den := by exact_mod_cast hden
  have hnumlow : ((2 : ℚ) ^ Nat.log2 num) ≤ num := by
    exact_mod_cast Nat.log2_self_le hnum.ne'
  have hnumhigh : (num : ℚ) < 2 ^ (Nat.log2 num + 1) := by
    exact_mod_cast Nat.lt_log2_self
  have hdenlow : ((2 : ℚ) ^ Nat.log2 den) ≤ den := by
    exact_mod_cast Nat.log2_self_le hden.ne'
  have hdenhigh : (den : ℚ) < 2 ^ (Nat.log2 den + 1) := by
    exact_mod_cast Nat.lt_log2_self
  constructor
  · rw [lt_div_iff₀ hpos]
    calc (2 : ℚ) ^ ((Nat.log2 num : Int) - Nat.log2 den - 1) * den
        < 2 ^ ((Nat.log2 num : Int) - Nat.log2 den - 1) * 2 ^ (Nat.log2 den + 1) :=
          mul_lt_mul_of_pos_left hdenhigh (two_zpow_pos _)
      _ = 2 ^ Nat.log2 num := by
          rw [← zpow_natCast, ← zpow_natCast, ← zpow_add₀ two_ne_zero]
          congr 1
          push_cast
          ring
      _ ≤ num := hnumlow
  · rw [div_lt_iff₀ hpos]
    calc (num : ℚ) < 2 ^ (Nat.log2 num + 1) := hnumhigh
      _ = 2 ^ ((Nat.log2 num : Int) - Nat.log2 den + 1) * 2 ^ Nat.log2 den := by
          rw [← zpow_natCast, ← zpow_natCast, ← zpow_add₀ two_ne_zero]
          congr 1
          push_cast
          ring
      _ ≤ 2 ^ ((Nat.log2 num : Int) - Nat.log2 den + 1) * den :=
          mul_le_mul_of_nonneg_left hdenlow (two_zpow_pos _).le

/-- With one of two exponents a ratio has a mantissa of 53 bits. -/
theorem guess_spec (hnum : 0 < num) (hden : 0 < den) {guess : Int}
    (hguess : guess = (Nat.log2 num : Int) - Nat.log2 den - 52) {e : Int}
    (he : e = if (inUnits num den guess).1 < (inUnits num den guess).2 * fullMantissa
      then guess - 1 else guess) :
    (fullMantissa : ℚ) ≤ num / den / 2 ^ e ∧ (num : ℚ) / den / 2 ^ e < 2 * fullMantissa := by
  obtain ⟨hlow, hhigh⟩ := ratio_bounds hnum hden
  obtain ⟨hpos, hratio⟩ := inUnits_spec num hden guess
  have hpos' : (0 : ℚ) < (inUnits num den guess).2 := by exact_mod_cast hpos
  have htest : (inUnits num den guess).1 < (inUnits num den guess).2 * fullMantissa ↔
      (num : ℚ) / den / 2 ^ guess < fullMantissa := by
    rw [← hratio, div_lt_iff₀' hpos']
    exact_mod_cast Iff.rfl
  have hfull : (fullMantissa : ℚ) = 2 ^ (52 : Int) := by norm_num [fullMantissa]
  generalize (num : ℚ) / den = q at *
  split at he <;> rename_i hcase <;> rw [htest] at hcase <;> subst he
  · rw [div_lt_iff₀ (two_zpow_pos _)] at hcase
    rw [le_div_iff₀ (two_zpow_pos _), div_lt_iff₀ (two_zpow_pos _)]
    constructor
    · rw [hfull, ← zpow_add₀ two_ne_zero]
      exact (lt_of_eq_of_lt (by congr 1; omega) hlow).le
    · rw [zpow_sub_one₀ two_ne_zero]
      linarith
  · refine ⟨not_lt.mp hcase, ?_⟩
    rw [div_lt_iff₀ (two_zpow_pos _), hfull, ← zpow_one_add₀ two_ne_zero, ← zpow_add₀ two_ne_zero]
    exact lt_of_lt_of_eq hhigh (by congr 1; omega)

/-- With its exponent a ratio has a mantissa of 53 bits, or fewer with the least exponent. -/
theorem exponentFor_spec (hnum : 0 < num) (hden : 0 < den) :
    leastExponent ≤ exponentFor num den ∧
      (num : ℚ) / den / 2 ^ exponentFor num den < 2 * fullMantissa ∧
        (exponentFor num den = leastExponent ∨
          (fullMantissa : ℚ) ≤ num / den / 2 ^ exponentFor num den) := by
  obtain ⟨e, he⟩ : ∃ e, e = if (inUnits num den (Nat.log2 num - Nat.log2 den - 52)).1 <
      (inUnits num den (Nat.log2 num - Nat.log2 den - 52)).2 * fullMantissa
    then (Nat.log2 num : Int) - Nat.log2 den - 52 - 1
    else (Nat.log2 num : Int) - Nat.log2 den - 52 := ⟨_, rfl⟩
  obtain ⟨hlow, hhigh⟩ := guess_spec hnum hden rfl he
  have hexponent : exponentFor num den = if e < leastExponent then leastExponent else e := by
    simp only [exponentFor, he]
  rw [hexponent]
  split <;> rename_i hclamp
  · refine ⟨le_rfl, lt_of_le_of_lt ?_ hhigh, .inl rfl⟩
    exact div_le_div_of_nonneg_left (by positivity) (two_zpow_pos _)
      (zpow_le_zpow_right₀ one_le_two hclamp.le)
  · exact ⟨not_lt.mp hclamp, hhigh, .inr hlow⟩

end Exponent

/-! ## Rounding a ratio -/

/-- A mantissa is nearest to a rational in units of a power of two, and this power is the last bit
of the number. -/
structure Nearest (q : ℚ) (mantissa : Nat) (exponent : Int) : Prop where
  least : leastExponent ≤ exponent
  below : q / 2 ^ exponent < 2 * fullMantissa
  full : exponent = leastExponent ∨ fullMantissa ≤ q / 2 ^ exponent
  near : |q / 2 ^ exponent - mantissa| ≤ 1 / 2
  even : |q / 2 ^ exponent - mantissa| = 1 / 2 → mantissa % 2 = 0

section OfRatio

variable {num den : Nat} {q : ℚ} {m : Nat} {e : Int} {x : Double}

@[simp]
theorem toRat_carry (m : Nat) (e : Int) : (carry m e).toRat = m * 2 ^ e := by
  unfold carry
  split <;> rename_i h
  · rw [h, toRat, zpow_add_one₀ two_ne_zero]
    push_cast
    ring
  · rfl

namespace Nearest

theorem mantissa_le (h : Nearest q m e) : m ≤ 2 * fullMantissa := by
  have hnear := (abs_le.mp h.near).1
  have : (m : ℚ) < (2 * fullMantissa : Nat) + 1 := by
    push_cast
    linarith [h.below]
  exact Nat.lt_succ_iff.mp (by exact_mod_cast this)

theorem full_mantissa (h : Nearest q m e) (hleast : e ≠ leastExponent) : fullMantissa ≤ m := by
  have hnear := (abs_le.mp h.near).2
  have : (fullMantissa : ℚ) < m + 1 := by linarith [h.full.resolve_left hleast]
  exact Nat.lt_succ_iff.mp (by exact_mod_cast this)

theorem sound (h : Nearest q m e) (hgreatest : (carry m e).exponent ≤ greatestExponent) :
    (carry m e).Sound := by
  have hmantissa := h.mantissa_le
  have hleast := h.least
  unfold carry at hgreatest ⊢
  split at hgreatest <;> rename_i hcarry
  · simp only [hcarry, if_true]
    exact ⟨by norm_num [fullMantissa], hleast.trans (by simp), hgreatest, .inr le_rfl⟩
  · simp only [hcarry, if_false]
    refine ⟨lt_of_le_of_ne hmantissa hcarry, hleast, hgreatest, ?_⟩
    exact (eq_or_ne e leastExponent).imp_right h.full_mantissa

/-- The nearest mantissa is what the rational is rounded to. -/
theorem rounded (h : Nearest q m e) (hgreatest : (carry m e).exponent ≤ greatestExponent) :
    Rounded q (carry m e) := by
  refine rounded_of_near (e := e) (m := m) (h.sound hgreatest) ?_ (by exact_mod_cast h.near) h.full
    fun htie => ?_
  · rw [toRat_carry, mul_div_cancel_right₀ _ (two_zpow_pos e).ne']
    norm_cast
  · have heven := h.even (by exact_mod_cast htie)
    unfold carry
    split
    · norm_num [fullMantissa]
    · exact heven

/-- With the greatest exponent a mantissa is rounded up to 54 bits exactly if the rational lies in
the last half of a unit. -/
theorem eq_two_mul_iff (h : Nearest q m e) :
    m = 2 * fullMantissa ↔ (2 * fullMantissa - 1 / 2 : ℚ) ≤ q / 2 ^ e := by
  obtain ⟨hlow, hhigh⟩ := abs_le.mp h.near
  constructor
  · rintro rfl
    push_cast at hlow
    linarith
  · intro hq
    have hle := h.mantissa_le
    have hge : 2 * fullMantissa ≤ m + 1 := by
      have : (2 * fullMantissa : ℚ) ≤ m + 1 := by linarith
      exact_mod_cast this
    by_contra hne
    have hm : m + 1 = 2 * fullMantissa := by omega
    have hm' : (m : ℚ) + 1 = 2 * fullMantissa := by exact_mod_cast hm
    have htie : |q / 2 ^ e - m| = 1 / 2 :=
      le_antisymm h.near (le_trans (by linarith) (le_abs_self _))
    have heven := h.even htie
    omega

/-- The carried exponent is too great exactly if the rational lies beyond the greatest number by
half of its last bit or more. -/
theorem beyond_iff (h : Nearest q m e) :
    greatestExponent < (carry m e).exponent ↔
      (2 * fullMantissa - 1 / 2 : ℚ) * 2 ^ greatestExponent ≤ q := by
  have hpos := two_zpow_pos e
  have hfull : (1 : ℚ) ≤ fullMantissa := by norm_num [fullMantissa]
  rcases lt_trichotomy e greatestExponent with hlt | rfl | hgt
  · refine iff_of_false ?_ (not_le.mpr ?_)
    · unfold carry
      split <;> simp only [not_lt] <;> omega
    · calc q < 2 * fullMantissa * 2 ^ e := (div_lt_iff₀ hpos).mp h.below
        _ ≤ 2 * fullMantissa * 2 ^ (greatestExponent - 1) :=
          mul_le_mul_of_nonneg_left (zpow_le_zpow_right₀ one_le_two (by omega)) (by positivity)
        _ = fullMantissa * 2 ^ greatestExponent := by
          rw [zpow_sub_one₀ two_ne_zero]
          ring
        _ ≤ (2 * fullMantissa - 1 / 2) * 2 ^ greatestExponent :=
          mul_le_mul_of_nonneg_right (by linarith) (two_zpow_pos _).le
  · rw [← le_div_iff₀ hpos, ← h.eq_two_mul_iff]
    unfold carry
    split <;> rename_i hcarry <;> simp [hcarry]
  · refine iff_of_true ?_ ?_
    · unfold carry
      split
      · exact hgt.trans (Int.lt_succ e)
      · exact hgt
    · have hleast : e ≠ leastExponent := by
        simp only [leastExponent, greatestExponent] at hgt ⊢
        omega
      calc (2 * fullMantissa - 1 / 2 : ℚ) * 2 ^ greatestExponent
          ≤ 2 * fullMantissa * 2 ^ (e - 1) :=
            mul_le_mul (by linarith) (zpow_le_zpow_right₀ one_le_two (by omega))
              (two_zpow_pos _).le (by positivity)
        _ = fullMantissa * 2 ^ e := by
            rw [zpow_sub_one₀ two_ne_zero]
            ring
        _ ≤ q := (le_div_iff₀ hpos).mp (h.full.resolve_left hleast)

end Nearest

/-- The mantissa of a ratio in units of its last bit is the nearest one. -/
theorem nearest_roundRatio (hnum : num ≠ 0) (hden : 0 < den) :
    Nearest ((num : ℚ) / den)
      (roundRatio (inUnits num den (exponentFor num den)).1
        (inUnits num den (exponentFor num den)).2) (exponentFor num den) := by
  obtain ⟨hleast, hbelow, hfull⟩ := exponentFor_spec (Nat.pos_of_ne_zero hnum) hden
  obtain ⟨hpos, hratio⟩ := inUnits_spec num hden (exponentFor num den)
  refine ⟨hleast, hbelow, hfull, ?_, ?_⟩
  · rw [← hratio]
    exact abs_sub_roundRatio_le_half _ hpos
  · rw [← hratio]
    exact even_roundRatio hpos

theorem sound_zero : zero.Sound :=
  ⟨by norm_num [zero, fullMantissa], le_rfl, by simp [zero, leastExponent, greatestExponent],
    .inl rfl⟩

/-- Nothing is rounded to nothing. -/
theorem rounded_zero : Rounded 0 zero := by
  have hzero : zero.toRat = 0 := by simp [zero, toRat]
  refine ⟨sound_zero, fun y _ => ?_, fun _ _ _ _ => rfl⟩
  rw [hzero, sub_zero, abs_zero]
  exact abs_nonneg _

/-- A ratio is rounded to the nearest number, and of two to the even one. -/
theorem rounded_of_ofRatio? (hden : 0 < den) (h : ofRatio? num den = some x) :
    Rounded ((num : ℚ) / den) x := by
  by_cases hnum : num = 0
  · obtain rfl : zero = x := by simpa [ofRatio?, hnum] using h
    simpa [hnum] using rounded_zero
  · rw [ofRatio?_eq hnum] at h
    obtain ⟨hgreatest, h⟩ := Option.ite_none_left_eq_some.mp h
    rw [← Option.some.inj h]
    exact (nearest_roundRatio hnum hden).rounded (not_lt.mp hgreatest)

/-- A ratio has no number exactly if it lies beyond the greatest one by half of its last bit or
more. -/
theorem ofRatio?_eq_none_iff (hden : 0 < den) :
    ofRatio? num den = none ↔
      (2 * fullMantissa - 1 / 2 : ℚ) * 2 ^ greatestExponent ≤ num / den := by
  by_cases hnum : num = 0
  · refine iff_of_false (by simp [ofRatio?, hnum]) (not_le.mpr ?_)
    rw [hnum, Nat.cast_zero, zero_div]
    exact mul_pos (by norm_num [fullMantissa]) (two_zpow_pos _)
  · rw [ofRatio?_eq hnum, ← (nearest_roundRatio hnum hden).beyond_iff]
    change (if _ < (nearestWith num den _).exponent then none else some _) = none ↔
      _ < (nearestWith num den _).exponent
    split <;> rename_i hgreatest <;> simp only [hgreatest, reduceCtorEq]

/-- A ratio that is not too great has the number that it is rounded to. -/
theorem ofRatio?_eq_some_iff (hden : 0 < den) :
    ofRatio? num den = some x ↔
      Rounded ((num : ℚ) / den) x ∧
        (num : ℚ) / den < (2 * fullMantissa - 1 / 2) * 2 ^ greatestExponent := by
  constructor
  · intro h
    refine ⟨rounded_of_ofRatio? hden h, not_le.mp fun hbeyond => ?_⟩
    rw [(ofRatio?_eq_none_iff hden).mpr hbeyond] at h
    cases h
  · rintro ⟨hrounded, hlt⟩
    cases h : ofRatio? num den with
    | none => exact absurd ((ofRatio?_eq_none_iff hden).mp h) (not_le.mpr hlt)
    | some y => rw [(rounded_of_ofRatio? hden h).eq hrounded]

end OfRatio

/-! ## Products and quotients -/

section Products

variable {x y z : Double}

theorem ratio_spec (x : Double) : 0 < x.ratio.2 ∧ (x.ratio.1 : ℚ) / x.ratio.2 = x.toRat := by
  unfold ratio toRat
  split <;> rename_i he
  · obtain ⟨n, hn⟩ := Int.eq_ofNat_of_zero_le he
    simp [hn]
  · obtain ⟨n, hn⟩ := Int.exists_eq_neg_ofNat (not_le.mp he).le
    simp [hn, div_eq_mul_inv]

/-- A product is rounded once. -/
theorem rounded_of_mul? (h : x.mul? y = some z) : Rounded (x.toRat * y.toRat) z := by
  obtain ⟨hx, hxratio⟩ := x.ratio_spec
  obtain ⟨hy, hyratio⟩ := y.ratio_spec
  have h : ofRatio? (x.ratio.1 * y.ratio.1) (x.ratio.2 * y.ratio.2) = some z := h
  have hrounded := rounded_of_ofRatio? (Nat.mul_pos hx hy) h
  rwa [Nat.cast_mul, Nat.cast_mul, mul_div_mul_comm, hxratio, hyratio] at hrounded

/-- A quotient by a number that is not nothing is rounded once. -/
theorem rounded_of_div? (hy : y.mantissa ≠ 0) (h : x.div? y = some z) :
    Rounded (x.toRat / y.toRat) z := by
  obtain ⟨hx, hxratio⟩ := x.ratio_spec
  obtain ⟨-, hyratio⟩ := y.ratio_spec
  have hpos : 0 < y.ratio.1 := by
    unfold ratio
    split
    · exact Nat.mul_pos (Nat.pos_of_ne_zero hy) (Nat.pow_pos two_pos)
    · exact Nat.pos_of_ne_zero hy
  have h : ofRatio? (x.ratio.1 * y.ratio.2) (x.ratio.2 * y.ratio.1) = some z := h
  have hrounded := rounded_of_ofRatio? (Nat.mul_pos hx hpos) h
  rwa [Nat.cast_mul, Nat.cast_mul, mul_div_mul_comm, hxratio, ← inv_div, hyratio,
    ← div_eq_mul_inv] at hrounded

end Products

end Double
end ProvisionWatch

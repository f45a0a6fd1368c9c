import Mathlib.Data.Nat.Digits.Lemmas
import ProvisionWatch.Number.Shortest
import ProvisionWatch.Proofs.Number.Rounding

/-!
# The shortest decimals are rounded to their number

The rationals in the basin of a number are rounded to it.  With a given power of
ten as the unit the digits that are chosen lie in the basin whenever any do, and
are nearest to the number among those.  The powers that are tried begin above the
number, and they end where the basin is wider than the unit; so there always are
shortest digits, none with a greater unit will do, and none are fewer.

Main results:

- Theorem `rounded_of_inBasin`: what lies in the basin is rounded to the number.
- Theorems `digitsAt?_eq_some` and `digitsAt?_eq_none_iff`: the digits with one
  power of ten as the unit.
- Theorem `shortest_spec`: the shortest digits lie in the basin, nearest to the
  number, and no digits with a greater unit do.
- Theorem `length_digits_shortest_le`: they are the fewest.
- Theorem `ofRatio?_shortest`: they are rounded to the number again.
-/

namespace ProvisionWatch
namespace Double

/-! ## The basin of a number -/

/-- The rationals between the middles to the neighbours of a number, which are measured in quarters
of its last bit. -/
def InBasin (x : Double) (q : ℚ) : Prop :=
  if x.quarters.closed then
    (x.quarters.lower : ℚ) ≤ q / 2 ^ (x.exponent - 2) ∧
      q / 2 ^ (x.exponent - 2) ≤ x.quarters.upper
  else
    (x.quarters.lower : ℚ) < q / 2 ^ (x.exponent - 2) ∧
      q / 2 ^ (x.exponent - 2) < x.quarters.upper

section Basin

variable {x : Double} {q r : ℚ}

theorem ten_zpow_pos (p : Int) : (0 : ℚ) < 10 ^ p :=
  zpow_pos (by norm_num) p

/-- The basin has no gaps. -/
theorem InBasin.of_between {q₁ q₂ : ℚ} (h₁ : x.InBasin q₁) (h₂ : x.InBasin q₂) (hq₁ : q₁ ≤ q)
    (hq₂ : q ≤ q₂) : x.InBasin q := by
  have hlow := div_le_div_of_nonneg_right hq₁ (two_zpow_pos (x.exponent - 2)).le
  have hhigh := div_le_div_of_nonneg_right hq₂ (two_zpow_pos (x.exponent - 2)).le
  unfold InBasin at *
  split_ifs at * with hclosed
  · exact ⟨h₁.1.trans hlow, hhigh.trans h₂.2⟩
  · exact ⟨h₁.1.trans_le hlow, hhigh.trans_lt h₂.2⟩

@[simp]
theorem value_quarters (x : Double) :
    x.toRat / 2 ^ (x.exponent - 2) = x.quarters.value := by
  rw [div_eq_iff (two_zpow_pos _).ne', toRat, zpow_sub₀ two_ne_zero]
  simp only [quarters]
  push_cast
  ring

theorem closed_quarters (x : Double) : x.quarters.closed = true ↔ x.mantissa % 2 = 0 := by
  simp [quarters]

/-- The number lies between the ends, and it is no end unless these belong to the basin. -/
theorem quarters_ordered (x : Double) :
    x.quarters.lower ≤ x.quarters.value ∧ x.quarters.value < x.quarters.upper ∧
      (x.quarters.closed = false → x.quarters.lower < x.quarters.value) := by
  refine ⟨Nat.sub_le _ _, Nat.lt_add_of_pos_right two_pos, fun hopen => ?_⟩
  have hodd : ¬ x.mantissa % 2 = 0 := by rw [← closed_quarters, hopen]; simp
  simp only [quarters]
  split <;> omega

/-- A number lies in its basin. -/
theorem inBasin_toRat (x : Double) : x.InBasin x.toRat := by
  obtain ⟨hlow, hhigh, hopen⟩ := x.quarters_ordered
  unfold InBasin
  rw [value_quarters]
  norm_cast
  split_ifs with hclosed
  · exact ⟨hlow, hhigh.le⟩
  · exact ⟨hopen (by simpa using hclosed), hhigh⟩

/-- The ends are half a last bit away, but the lower end only a quarter where the numbers below lie
closer. -/
theorem lower_quarters (hm : x.mantissa ≠ 0) :
    (x.quarters.lower : ℚ) = 4 * (x.mantissa -
      if x.mantissa = fullMantissa ∧ leastExponent < x.exponent then 1 / 4 else 1 / 2) := by
  have hsub : x.quarters.lower + (if x.mantissa = fullMantissa ∧ leastExponent < x.exponent
      then 1 else 2) = 4 * x.mantissa := by
    simp only [quarters, decide_eq_true_eq]
    split <;> omega
  have hsub' : (x.quarters.lower : ℚ) + (if x.mantissa = fullMantissa ∧ leastExponent < x.exponent
      then 1 else 2) = 4 * x.mantissa := by exact_mod_cast hsub
  rw [← sub_eq_iff_eq_add.mpr hsub'.symm]
  split <;> ring

theorem div_quarter (q : ℚ) (e : Int) : q / 2 ^ (e - 2) = 4 * (q / 2 ^ e) := by
  rw [zpow_sub₀ two_ne_zero]
  field_simp
  norm_num

/-- The basin in units of the last bit. -/
theorem inBasin_iff (hm : x.mantissa ≠ 0) :
    x.InBasin q ↔
      if x.mantissa % 2 = 0 then
        (x.mantissa : ℚ) - (if x.mantissa = fullMantissa ∧ leastExponent < x.exponent
          then 1 / 4 else 1 / 2) ≤ q / 2 ^ x.exponent ∧
            q / 2 ^ x.exponent ≤ x.mantissa + 1 / 2
      else
        (x.mantissa : ℚ) - (if x.mantissa = fullMantissa ∧ leastExponent < x.exponent
          then 1 / 4 else 1 / 2) < q / 2 ^ x.exponent ∧
            q / 2 ^ x.exponent < x.mantissa + 1 / 2 := by
  have hupper : (x.quarters.upper : ℚ) = 4 * (x.mantissa + 1 / 2) := by
    simp only [quarters]
    push_cast
    ring
  unfold InBasin
  rw [lower_quarters hm, hupper, div_quarter]
  simp only [closed_quarters]
  split <;> constructor <;> rintro ⟨h₁, h₂⟩ <;> constructor <;> linarith

/-- What lies in the basin is nearer to the number than to any other one, or as near if the mantissa
is even. -/
theorem InBasin.nearer (hx : x.Sound) (hm : x.mantissa ≠ 0) (h : x.InBasin q) {y : Double}
    (hy : y.Sound) (hne : y.toRat ≠ x.toRat) :
    |q - x.toRat| ≤ |q - y.toRat| ∧
      (x.mantissa % 2 ≠ 0 → |q - x.toRat| < |q - y.toRat|) := by
  have hpos := two_zpow_pos x.exponent
  rw [abs_sub_eq_mul q x.toRat hpos, abs_sub_eq_mul q y.toRat hpos, toRat_div]
  rw [mul_le_mul_iff_left₀ hpos, mul_lt_mul_iff_left₀ hpos]
  have hapart := hx.apart hy hne
  rw [inBasin_iff hm] at h
  generalize q / 2 ^ x.exponent = t at *
  generalize y.toRat / 2 ^ x.exponent = y' at *
  generalize (x.mantissa : ℚ) = m at *
  have hbelow := le_abs_self (t - y')
  have habove := neg_le_abs (t - y')
  -- The other number lies above, below, or below where the numbers lie closer.
  refine ⟨abs_sub_le_iff.mpr ?_, fun hodd => abs_sub_lt_iff.mpr ?_⟩
  · rcases hapart with hy' | hy' | ⟨hfull, hleast, hy'⟩
    · split_ifs at h <;> constructor <;> linarith
    · split_ifs at h <;> constructor <;> linarith
    · have hnarrow : x.mantissa = fullMantissa ∧ leastExponent < x.exponent := ⟨hfull, hleast⟩
      rw [if_pos hnarrow] at h
      split_ifs at h <;> constructor <;> linarith
  · rw [if_neg hodd] at h
    rcases hapart with hy' | hy' | ⟨hfull, hleast, hy'⟩
    · split_ifs at h <;> constructor <;> linarith
    · split_ifs at h <;> constructor <;> linarith
    · have hnarrow : x.mantissa = fullMantissa ∧ leastExponent < x.exponent := ⟨hfull, hleast⟩
      rw [if_pos hnarrow] at h
      constructor <;> linarith

/-- What lies in the basin is rounded to the number. -/
theorem rounded_of_inBasin (hx : x.Sound) (hm : x.mantissa ≠ 0) (h : x.InBasin q) :
    Rounded q x := by
  refine ⟨hx, fun y hy => ?_, fun y hy hne heq => ?_⟩
  · by_cases hne : y.toRat = x.toRat
    · rw [hne]
    · exact (h.nearer hx hm hy hne).1
  · by_contra hodd
    exact ((h.nearer hx hm hy hne).2 hodd).ne heq.symm

/-- The basin lies below the rationals that are too great. -/
theorem InBasin.lt_beyond (hx : x.Sound) (hm : x.mantissa ≠ 0) (h : x.InBasin q) :
    q < (2 * fullMantissa - 1 / 2) * 2 ^ greatestExponent := by
  have hunits : q / 2 ^ x.exponent < 2 * fullMantissa - 1 / 2 := by
    rw [inBasin_iff hm] at h
    have hmantissa : x.mantissa + 1 ≤ 2 * fullMantissa := hx.mantissa_lt
    by_cases heven : x.mantissa % 2 = 0
    · rw [if_pos heven] at h
      have hless : x.mantissa + 2 ≤ 2 * fullMantissa := by omega
      have hless' : (x.mantissa : ℚ) + 2 ≤ 2 * fullMantissa := by exact_mod_cast hless
      linarith
    · rw [if_neg heven] at h
      have hmantissa' : (x.mantissa : ℚ) + 1 ≤ 2 * fullMantissa := by exact_mod_cast hmantissa
      linarith
  calc q < (2 * fullMantissa - 1 / 2) * 2 ^ x.exponent :=
        (div_lt_iff₀ (two_zpow_pos _)).mp hunits
    _ ≤ (2 * fullMantissa - 1 / 2) * 2 ^ greatestExponent :=
        mul_le_mul_of_nonneg_left (zpow_le_zpow_right₀ one_le_two hx.greatest)
          (by norm_num [fullMantissa])

end Basin

/-! ## Digits in units of a power of ten -/

/-- A power as a ratio of two whole numbers. -/
theorem power_ratio {base : Nat} (hbase : 0 < base) (e : Int) :
    0 < (if 0 ≤ e then Nat.pow base e.toNat else 1) ∧
      0 < (if 0 ≤ e then 1 else Nat.pow base e.natAbs) ∧
        ((if 0 ≤ e then Nat.pow base e.toNat else 1 : Nat) : ℚ) /
          ((if 0 ≤ e then 1 else Nat.pow base e.natAbs : Nat) : ℚ) = (base : ℚ) ^ e := by
  split <;> rename_i he
  · obtain ⟨n, rfl⟩ := Int.eq_ofNat_of_zero_le he
    exact ⟨Nat.pow_pos hbase, one_pos, by simp⟩
  · obtain ⟨n, rfl⟩ := Int.exists_eq_neg_ofNat (not_le.mp he).le
    exact ⟨one_pos, Nat.pow_pos hbase, by simp⟩

section Digits

variable {x : Double} {p : Int} {d : Nat}

/-- The units of a basin and of a power of ten. -/
theorem basinAt_spec (x : Double) (p : Int) :
    ∃ scale : Nat, 0 < scale ∧ 0 < (x.basinAt p).2 ∧
      (x.basinAt p).1 = { x.quarters with
        lower := x.quarters.lower * scale
        value := x.quarters.value * scale
        upper := x.quarters.upper * scale } ∧
      ((x.basinAt p).2 : ℚ) / scale = 10 ^ p / 2 ^ (x.exponent - 2) := by
  obtain ⟨htwo, htwo', htwoRatio⟩ := power_ratio two_pos (x.exponent - 2)
  obtain ⟨hten, hten', htenRatio⟩ := power_ratio (by norm_num : 0 < 10) p
  refine ⟨_, Nat.mul_pos htwo hten', Nat.mul_pos hten htwo', rfl, ?_⟩
  push_cast at htwoRatio htenRatio
  rw [← htwoRatio, ← htenRatio]
  simp only [basinAt]
  push_cast
  rw [div_div_div_eq]
  ring

/-- Whole numbers of the unit are compared with the ends exactly. -/
@[simp]
theorem mem_basinAt (x : Double) (p : Int) (k : Nat) :
    (x.basinAt p).1.mem (k * (x.basinAt p).2) = true ↔ x.InBasin (k * 10 ^ p) := by
  obtain ⟨scale, hscale, -, hbasin, hratio⟩ := x.basinAt_spec p
  have hscale' : (0 : ℚ) < scale := by exact_mod_cast hscale
  have hunits : (k : ℚ) * 10 ^ p / 2 ^ (x.exponent - 2) =
      (k * (x.basinAt p).2 : Nat) / scale := by
    rw [mul_div_assoc, ← hratio, Nat.cast_mul, mul_div_assoc]
  have hle (n : Nat) : (n : ℚ) ≤ (k * (x.basinAt p).2 : Nat) / scale ↔
      n * scale ≤ k * (x.basinAt p).2 := by
    rw [le_div_iff₀ hscale']
    exact_mod_cast Iff.rfl
  have hge (n : Nat) : ((k * (x.basinAt p).2 : Nat) : ℚ) / scale ≤ n ↔
      k * (x.basinAt p).2 ≤ n * scale := by
    rw [div_le_iff₀ hscale']
    exact_mod_cast Iff.rfl
  unfold InBasin Basin.mem
  simp only [hunits, ← not_le, hle, hge, hbasin]
  split <;> simp

/-- In units of a power of ten the number is a ratio. -/
theorem toRat_div_ten (x : Double) (p : Int) :
    x.toRat / 10 ^ p = ((x.basinAt p).1.value : ℚ) / (x.basinAt p).2 := by
  obtain ⟨scale, hscale, hunit, hbasin, hratio⟩ := x.basinAt_spec p
  have hscale' : (scale : ℚ) ≠ 0 := by exact_mod_cast hscale.ne'
  have hvalue : x.toRat = x.quarters.value * 2 ^ (x.exponent - 2) := by
    rw [← value_quarters, div_mul_cancel₀ _ (two_zpow_pos _).ne']
  have hunit' : ((x.basinAt p).2 : ℚ) = 10 ^ p / 2 ^ (x.exponent - 2) * scale :=
    (div_eq_iff hscale').mp hratio
  have htwo := (two_zpow_pos (x.exponent - 2)).ne'
  have hten := (ten_zpow_pos p).ne'
  rw [hbasin, hunit', hvalue]
  push_cast
  field_simp

/-- The number lies between the digits below it and the next ones. -/
theorem below_le_toRat (x : Double) (p : Int) :
    (((x.basinAt p).1.value / (x.basinAt p).2 : Nat) : ℚ) * 10 ^ p ≤ x.toRat ∧
      x.toRat ≤ (((x.basinAt p).1.value / (x.basinAt p).2 + 1 : Nat) : ℚ) * 10 ^ p := by
  obtain ⟨-, -, hunit, -, -⟩ := x.basinAt_spec p
  have hunit' : (0 : ℚ) < (x.basinAt p).2 := by exact_mod_cast hunit
  rw [← le_div_iff₀ (ten_zpow_pos p), ← div_le_iff₀ (ten_zpow_pos p), toRat_div_ten,
    le_div_iff₀ hunit', div_le_iff₀ hunit']
  constructor
  · exact_mod_cast Nat.div_mul_le_self _ _
  · have hlt := Nat.lt_mul_div_succ (x.basinAt p).1.value hunit
    rw [Nat.mul_comm] at hlt
    exact_mod_cast hlt.le

/-- A rounded ratio is its whole part or the next number. -/
theorem roundRatio_eq_or (num den : Nat) :
    roundRatio num den = num / den ∨ roundRatio num den = num / den + 1 := by
  simp only [roundRatio]
  split
  · exact .inr rfl
  · exact .inl rfl

/-- If digits lie in the basin, then so do the ones next to the number on their side. -/
theorem InBasin.next {k : Nat} (h : x.InBasin (k * 10 ^ p)) :
    (k ≤ (x.basinAt p).1.value / (x.basinAt p).2 ∧
        x.InBasin (((x.basinAt p).1.value / (x.basinAt p).2 : Nat) * 10 ^ p)) ∨
      ((x.basinAt p).1.value / (x.basinAt p).2 + 1 ≤ k ∧
        x.InBasin (((x.basinAt p).1.value / (x.basinAt p).2 + 1 : Nat) * 10 ^ p)) := by
  obtain ⟨hbelow, habove⟩ := x.below_le_toRat p
  rcases Nat.lt_or_ge ((x.basinAt p).1.value / (x.basinAt p).2) k with hk | hk
  · refine .inr ⟨hk, x.inBasin_toRat.of_between h habove ?_⟩
    exact mul_le_mul_of_nonneg_right (by exact_mod_cast hk) (ten_zpow_pos p).le
  · refine .inl ⟨hk, h.of_between x.inBasin_toRat ?_ hbelow⟩
    exact mul_le_mul_of_nonneg_right (by exact_mod_cast hk) (ten_zpow_pos p).le

open Classical in
/-- The digits below the number are found, or the next ones, or the nearer of both. -/
theorem digitsAt?_eq (x : Double) (p : Int) :
    x.digitsAt? p =
      if x.InBasin (((x.basinAt p).1.value / (x.basinAt p).2 : Nat) * 10 ^ p) then
        if x.InBasin (((x.basinAt p).1.value / (x.basinAt p).2 + 1 : Nat) * 10 ^ p) then
          some (roundRatio (x.basinAt p).1.value (x.basinAt p).2)
        else some ((x.basinAt p).1.value / (x.basinAt p).2)
      else if x.InBasin (((x.basinAt p).1.value / (x.basinAt p).2 + 1 : Nat) * 10 ^ p) then
        some ((x.basinAt p).1.value / (x.basinAt p).2 + 1)
      else none := by
  simp only [digitsAt?, Bool.and_eq_true, mem_basinAt]
  by_cases hbelow : x.InBasin (((x.basinAt p).1.value / (x.basinAt p).2 : Nat) * 10 ^ p) <;>
    simp only [hbelow, true_and, false_and, if_true, if_false]

/-- Digits are found exactly if some lie in the basin. -/
theorem digitsAt?_eq_none_iff :
    x.digitsAt? p = none ↔ ∀ k : Nat, ¬ x.InBasin (k * 10 ^ p) := by
  constructor
  · intro hnone k hk
    rw [digitsAt?_eq] at hnone
    rcases hk.next with ⟨-, hnext⟩ | ⟨-, hnext⟩ <;> simp only [hnext, if_true] at hnone <;>
      split at hnone <;> cases hnone
  · intro hnone
    rw [digitsAt?_eq, if_neg (hnone _), if_neg (hnone _)]

/-- The digits that are found lie in the basin, and no others that do are nearer to the number. -/
theorem digitsAt?_eq_some (h : x.digitsAt? p = some d) :
    x.InBasin (d * 10 ^ p) ∧
      ∀ k : Nat, x.InBasin (k * 10 ^ p) → |x.toRat - d * 10 ^ p| ≤ |x.toRat - k * 10 ^ p| := by
  obtain ⟨hbelow, habove⟩ := x.below_le_toRat p
  obtain ⟨-, -, hunit, -, -⟩ := x.basinAt_spec p
  have hten := ten_zpow_pos p
  rw [digitsAt?_eq] at h
  split_ifs at h with hlow hhigh hhigh <;> obtain rfl := Option.some.inj h
  · constructor
    · rcases roundRatio_eq_or (x.basinAt p).1.value (x.basinAt p).2 with heq | heq <;> rw [heq]
      · exact hlow
      · exact hhigh
    · intro k _
      rw [abs_sub_eq_mul x.toRat (_ * _) hten, abs_sub_eq_mul x.toRat (k * _) hten,
        mul_div_cancel_right₀ _ hten.ne', mul_div_cancel_right₀ _ hten.ne', toRat_div_ten]
      have hhalf := abs_sub_roundRatio_le_half (x.basinAt p).1.value hunit
      exact mul_le_mul_of_nonneg_right
        (by exact_mod_cast abs_sub_le_of_le_half (by exact_mod_cast hhalf) k) hten.le
  · refine ⟨hlow, fun k hk => ?_⟩
    obtain ⟨hle, -⟩ := hk.next.resolve_right fun hnext => hhigh hnext.2
    have hle' := mul_le_mul_of_nonneg_right (Nat.cast_le.mpr hle : _ ≤ (_ : ℚ)) hten.le
    exact abs_le_abs (by linarith) (by linarith)
  · refine ⟨hhigh, fun k hk => ?_⟩
    obtain ⟨hle, -⟩ := hk.next.resolve_left fun hnext => hlow hnext.2
    have hle' := mul_le_mul_of_nonneg_right (Nat.cast_le.mpr hle : _ ≤ (_ : ℚ)) hten.le
    rw [abs_sub_comm, abs_sub_comm x.toRat]
    exact abs_le_abs (by linarith) (by linarith)

end Digits

/-! ## The powers of ten that are tried -/

section Shortest

variable {x : Double} {p : Int} {d : Nat}

/-- Whether the power of ten for a size in bits is not too small, and not a thousand times too
great.  Both are raised so far that the exponents are not negative. -/
def powerFits (size : Int) (m n : Nat) : Bool :=
  let power := size * 30103 / 100000 + 2
  decide (2 ^ (size + m).toNat * 10 ^ n ≤ 10 ^ (power + n).toNat * 2 ^ m) &&
    decide (10 ^ (power - 3 + n).toNat * 2 ^ m ≤ 2 ^ (size + m).toNat * 10 ^ n)

/-- The sizes of the numbers are checked one by one. -/
theorem powerFits_all :
    ((List.range 2099).all fun k => powerFits ((k : Int) - 1074) 1100 400) = true := by
  decide +kernel

/-- The size of a number in bits. -/
def size (x : Double) : Int :=
  Nat.log2 x.mantissa + 1 + x.exponent

/-- Powers are compared as whole numbers once both are made great enough. -/
theorem zpow_le_zpow_of_nat {a b : Nat} (ha : 0 < a) (hb : 0 < b) {k l : Int} {m n : Nat}
    (hk : 0 ≤ k + m) (hl : 0 ≤ l + n)
    (h : a ^ (k + m).toNat * b ^ n ≤ b ^ (l + n).toNat * a ^ m) : (a : ℚ) ^ k ≤ (b : ℚ) ^ l := by
  have hpower {c : Nat} (hc : 0 < c) {j : Int} {i : Nat} (hj : 0 ≤ j + i) :
      (c : ℚ) ^ j = (c ^ (j + i).toNat : Nat) / (c ^ i : Nat) := by
    have hc' : (c : ℚ) ≠ 0 := by exact_mod_cast hc.ne'
    rw [Nat.cast_pow, Nat.cast_pow, ← zpow_natCast, ← zpow_natCast, ← zpow_sub₀ hc',
      Int.toNat_of_nonneg hj, Int.add_sub_cancel]
  have hpos {c : Nat} (hc : 0 < c) (i : Nat) : (0 : ℚ) < (c ^ i : Nat) := by
    exact_mod_cast Nat.pow_pos hc
  rw [hpower ha hk, hpower hb hl, div_le_div_iff₀ (hpos ha m) (hpos hb n)]
  exact_mod_cast h

/-- Powers of two and of ten are compared by the check. -/
theorem zpow_of_powerFits {size : Int} {m n : Nat} (h : powerFits size m n = true)
    (hm : 0 ≤ size + m) (hn : 0 ≤ size * 30103 / 100000 - 1 + n) :
    (2 : ℚ) ^ size ≤ 10 ^ (size * 30103 / 100000 + 2) ∧
      (10 : ℚ) ^ (size * 30103 / 100000 + 2 - 3) ≤ 2 ^ size := by
  simp only [powerFits, Bool.and_eq_true, decide_eq_true_eq] at h
  constructor
  · exact_mod_cast zpow_le_zpow_of_nat two_pos (by norm_num : 0 < 10) hm (by omega) h.1
  · exact_mod_cast zpow_le_zpow_of_nat (by norm_num : 0 < 10) two_pos (by omega) hm h.2

/-- The power of ten is not below the size of the number, and a thousandth of it is not above. -/
theorem powerAbove_near (hx : x.Sound) (hm : x.mantissa ≠ 0) :
    (2 : ℚ) ^ x.size ≤ 10 ^ x.powerAbove ∧ (10 : ℚ) ^ (x.powerAbove - 3) ≤ 2 ^ x.size := by
  have hbits : Nat.log2 x.mantissa < 53 :=
    (Nat.log2_lt hm).mpr (lt_of_lt_of_eq hx.mantissa_lt (by norm_num [fullMantissa]))
  have hleast := hx.least
  have hgreatest := hx.greatest
  simp only [leastExponent, greatestExponent] at hleast hgreatest
  have hsize : -1074 ≤ x.size ∧ x.size < 1025 := by
    unfold size
    omega
  have hfits := List.all_eq_true.mp powerFits_all (x.size + 1074).toNat
    (List.mem_range.mpr (by omega))
  rw [show ((x.size + 1074).toNat : Int) - 1074 = x.size by omega] at hfits
  exact zpow_of_powerFits hfits (by omega) (by omega)

/-- The basin lies below the size of the number. -/
theorem InBasin.lt_size (hm : x.mantissa ≠ 0) {q : ℚ} (h : x.InBasin q) : q < 2 ^ x.size := by
  have hunits : q / 2 ^ x.exponent < 2 ^ (Nat.log2 x.mantissa + 1) := by
    have hlog : (x.mantissa : ℚ) + 1 ≤ 2 ^ (Nat.log2 x.mantissa + 1) := by
      exact_mod_cast (Nat.lt_log2_self : x.mantissa < 2 ^ (x.mantissa.log2 + 1))
    rw [inBasin_iff hm] at h
    split at h <;> linarith [h.2]
  calc q < 2 ^ (Nat.log2 x.mantissa + 1) * 2 ^ x.exponent :=
        (div_lt_iff₀ (two_zpow_pos _)).mp hunits
    _ = 2 ^ x.size := by
        rw [size, zpow_add₀ two_ne_zero, ← zpow_natCast]
        push_cast
        rfl

/-- Nothing does not lie in the basin of another number. -/
theorem not_inBasin_zero (hm : x.mantissa ≠ 0) : ¬ x.InBasin 0 := by
  rw [inBasin_iff hm, zero_div]
  have hone : (1 : ℚ) ≤ x.mantissa := by exact_mod_cast Nat.one_le_iff_ne_zero.mpr hm
  split_ifs <;> rintro ⟨h, -⟩ <;> linarith

/-- No digits in greater units lie in the basin. -/
theorem not_inBasin_of_powerAbove_le (hx : x.Sound) (hm : x.mantissa ≠ 0) (hp : x.powerAbove ≤ p)
    (k : Nat) : ¬ x.InBasin (k * 10 ^ p) := by
  intro h
  rcases Nat.eq_zero_or_pos k with rfl | hk
  · exact not_inBasin_zero hm (by simpa using h)
  · have hk' : (1 : ℚ) ≤ k := by exact_mod_cast hk
    have hpower := zpow_le_zpow_right₀ (by norm_num : (1 : ℚ) ≤ 10) hp
    have hlt := (h.lt_size hm).trans_le (powerAbove_near hx hm).1
    have hle := mul_le_mul_of_nonneg_right hk' (ten_zpow_pos p).le
    linarith

/-- A quarter of the last bit below the number and half of it above lie in the basin. -/
theorem inBasin_of_near (hm : x.mantissa ≠ 0) {q : ℚ} (hlow : x.toRat - q < 1 / 4 * 2 ^ x.exponent)
    (hhigh : q - x.toRat < 1 / 2 * 2 ^ x.exponent) : x.InBasin q := by
  have hpos := two_zpow_pos x.exponent
  rw [← div_lt_iff₀ hpos, sub_div, toRat_div] at hlow hhigh
  rw [inBasin_iff hm]
  split_ifs <;> constructor <;> linarith

/-- If the unit is smaller than the basin, then some digits lie in it. -/
theorem exists_inBasin (hm : x.mantissa ≠ 0) (hp : (10 : ℚ) ^ p < 3 / 4 * 2 ^ x.exponent) :
    ∃ k : Nat, x.InBasin (k * 10 ^ p) := by
  obtain ⟨hbelow, habove⟩ := x.below_le_toRat p
  have hten := ten_zpow_pos p
  have htwo := two_zpow_pos x.exponent
  generalize (x.basinAt p).1.value / (x.basinAt p).2 = b at hbelow habove
  push_cast at habove
  by_cases hnext : ((b + 1 : Nat) : ℚ) * 10 ^ p - x.toRat < 1 / 2 * 2 ^ x.exponent
  · refine ⟨b + 1, inBasin_of_near hm ?_ hnext⟩
    push_cast
    linarith
  · push_cast at hnext
    exact ⟨b, inBasin_of_near hm (by linarith) (by linarith)⟩

/-- With the last power that is tried the unit is smaller than the basin. -/
theorem lastPower_lt (hx : x.Sound) (hm : x.mantissa ≠ 0) :
    (10 : ℚ) ^ (x.powerAbove - 23) < 3 / 4 * 2 ^ x.exponent := by
  have hbits : Nat.log2 x.mantissa + 1 ≤ 53 :=
    (Nat.log2_lt hm).mpr (lt_of_lt_of_eq hx.mantissa_lt (by norm_num [fullMantissa]))
  calc (10 : ℚ) ^ (x.powerAbove - 23) = 10 ^ (x.powerAbove - 3) / 10 ^ 20 := by
        rw [← zpow_natCast, ← zpow_sub₀ (by norm_num)]
        congr 1
        push_cast
        ring
    _ ≤ 2 ^ x.size / 10 ^ 20 :=
        div_le_div_of_nonneg_right (powerAbove_near hx hm).2 (by positivity)
    _ ≤ 2 ^ (53 + x.exponent) / 10 ^ 20 := by
        refine div_le_div_of_nonneg_right (zpow_le_zpow_right₀ one_le_two ?_) (by positivity)
        unfold size
        omega
    _ < 3 / 4 * 2 ^ x.exponent := by
        rw [zpow_add₀ two_ne_zero, div_lt_iff₀ (by positivity)]
        have hpos := two_zpow_pos x.exponent
        norm_num
        linarith

/-! ## The shortest digits -/

/-- The digits with the first power of ten for which there are any. -/
theorem shortest_eq (hx : x.Sound) (hm : x.mantissa ≠ 0) (h : x.shortest = (d, p)) :
    x.digitsAt? p = some d ∧
      ∀ p', p < p' → p' ≤ x.powerAbove → x.digitsAt? p' = none := by
  obtain ⟨k, hk⟩ := exists_inBasin hm (lastPower_lt hx hm)
  rw [shortest, if_neg hm] at h
  simp only [List.findSome?_map] at h
  generalize hfound : (List.range 24).findSome? _ = found at h
  cases found with
  | none =>
    have hlast := List.findSome?_eq_none_iff.mp hfound 23 (by simp)
    exact absurd hk (digitsAt?_eq_none_iff.mp (by simpa using hlast) k)
  | some found =>
    obtain rfl : found = (d, p) := h
    obtain ⟨before, n, after, hrange, hn, hbefore⟩ := List.findSome?_eq_some_iff.mp hfound
    obtain ⟨ds, hds, heq⟩ := Option.map_eq_some_iff.mp hn
    obtain ⟨rfl, rfl⟩ := Prod.mk.inj heq
    refine ⟨hds, fun p' hp' hle => ?_⟩
    dsimp only at hp'
    -- The power stands before the one with digits, as the powers fall.
    have hmem : (x.powerAbove - p').toNat ∈ before := by
      have hsorted := hrange ▸ List.pairwise_lt_range (n := 24)
      have hlt : (x.powerAbove - p').toNat < n := by omega
      have hn24 : n < 24 := List.mem_range.mp (by rw [hrange]; simp)
      have hin : (x.powerAbove - p').toNat ∈ before ++ n :: after := by
        rw [← hrange]
        exact List.mem_range.mpr (by omega)
      rcases List.mem_append.mp hin with hin | hin
      · exact hin
      · rcases List.mem_cons.mp hin with heq | hafter
        · omega
        · have hgt := (List.pairwise_cons.mp (List.pairwise_append.mp hsorted).2.1).1 _ hafter
          omega
    have hnone := hbefore _ hmem
    simp only [Function.comp_apply, Option.map_eq_none_iff] at hnone
    rwa [show x.powerAbove - ((x.powerAbove - p').toNat : Int) = p' by omega] at hnone

/-- The shortest digits lie in the basin, none that do with their unit are nearer to the number, and
none with a greater unit lie in it. -/
theorem shortest_spec (hx : x.Sound) (hm : x.mantissa ≠ 0) (h : x.shortest = (d, p)) :
    x.InBasin (d * 10 ^ p) ∧
      (∀ k : Nat, x.InBasin (k * 10 ^ p) → |x.toRat - d * 10 ^ p| ≤ |x.toRat - k * 10 ^ p|) ∧
        ∀ p', p < p' → ∀ k : Nat, ¬ x.InBasin (k * 10 ^ p') := by
  obtain ⟨hdigits, hgreater⟩ := shortest_eq hx hm h
  obtain ⟨hbasin, hnearest⟩ := digitsAt?_eq_some hdigits
  refine ⟨hbasin, hnearest, fun p' hp' k => ?_⟩
  rcases le_total x.powerAbove p' with habove | hbelow
  · exact not_inBasin_of_powerAbove_le hx hm habove k
  · exact digitsAt?_eq_none_iff.mp (hgreater p' hp' hbelow) k

/-- No digits in the basin, whatever their unit, are fewer than the shortest ones. -/
theorem length_digits_shortest_le (hx : x.Sound) (hm : x.mantissa ≠ 0) (h : x.shortest = (d, p))
    {k : Nat} {p' : Int} (hk : x.InBasin (k * 10 ^ p')) :
    (Nat.digits 10 d).length ≤ (Nat.digits 10 k).length := by
  obtain ⟨hbasin, -, hgreater⟩ := shortest_spec hx hm h
  by_contra hfewer
  have hp' : p' ≤ p := not_lt.mp fun hp' => hgreater p' hp' k hk
  have hd : d ≠ 0 := by
    rintro rfl
    simp at hfewer
  obtain ⟨n, hn⟩ : ∃ n, (Nat.digits 10 d).length = n + 1 := ⟨_, (Nat.succ_pred (by omega)).symm⟩
  have hkn : k ≤ 10 ^ n := (Nat.lt_base_pow_length_digits (by norm_num)).le.trans
    (Nat.pow_le_pow_right (by norm_num) (by omega))
  have hdn : 10 ^ n ≤ d := by
    have hle := Nat.base_pow_length_digits_le 10 d (by norm_num) hd
    rw [hn, pow_succ] at hle
    omega
  -- The power of ten in between lies in the basin, too.
  have hbetween : x.InBasin ((1 : Nat) * 10 ^ (p + n)) := by
    refine hk.of_between hbasin ?_ ?_ <;>
      rw [zpow_add₀ (by norm_num), zpow_natCast, Nat.cast_one, one_mul, mul_comm (_ ^ _)]
    · exact mul_le_mul (by exact_mod_cast hkn) (zpow_le_zpow_right₀ (by norm_num) hp')
        (ten_zpow_pos p').le (by positivity)
    · exact mul_le_mul_of_nonneg_right (by exact_mod_cast hdn) (ten_zpow_pos p).le
  rcases Nat.eq_zero_or_pos n with rfl | hpos
  · have hk0 : k = 0 := by
      have hlength : (Nat.digits 10 k).length = 0 := by omega
      exact Nat.digits_eq_nil_iff_eq_zero.mp (List.eq_nil_of_length_eq_zero hlength)
    exact not_inBasin_zero hm (by simpa [hk0] using hk)
  · exact hgreater _ (by omega) 1 hbetween

/-- The shortest digits are rounded to the number again. -/
theorem ofRatio?_shortest (hx : x.Sound) (hm : x.mantissa ≠ 0) (h : x.shortest = (d, p))
    {num den : Nat} (hden : 0 < den) (hratio : (num : ℚ) / den = d * 10 ^ p) :
    ofRatio? num den = some x := by
  obtain ⟨hbasin, -, -⟩ := shortest_spec hx hm h
  rw [ofRatio?_eq_some_iff hden, hratio]
  exact ⟨rounded_of_inBasin hx hm hbasin, hbasin.lt_beyond hx hm⟩

end Shortest

end Double
end ProvisionWatch

import ProvisionWatch.Number.Double

/-!
# Shortest decimals

A number of double precision is shown with the fewest digits that are rounded to
it, and of these with the ones that are nearest.

The numbers that are rounded to a given one lie between the middles to its
neighbours; the middles themselves are among them exactly if its mantissa is
even.
-/

namespace ProvisionWatch
namespace Double

/-- The decimals that are rounded to a number, all in units of the same ratio. -/
structure Basin where
  lower : Nat
  value : Nat
  upper : Nat
  /-- Whether the ends are rounded to the number, too. -/
  closed : Bool
deriving DecidableEq, Repr

/-- Whether a decimal lies within. -/
def Basin.mem (b : Basin) (x : Nat) : Bool :=
  if b.closed then decide (b.lower ≤ x ∧ x ≤ b.upper) else decide (b.lower < x ∧ x < b.upper)

/-- The decimals that are rounded to a number, in quarters of its last bit.  Below a power of two
the numbers lie twice as close. -/
def quarters (x : Double) : Basin :=
  let narrow := decide (x.mantissa = fullMantissa ∧ leastExponent < x.exponent)
  { lower := 4 * x.mantissa - (if narrow then 1 else 2)
    value := 4 * x.mantissa
    upper := 4 * x.mantissa + 2
    closed := x.mantissa % 2 == 0 }

/-- The decimals that are rounded to a number together with the unit `10 ^ power`, all in units of
the same ratio. -/
def basinAt (x : Double) (power : Int) : Basin × Nat :=
  let b := x.quarters
  let exponent := x.exponent - 2
  let scale := (if 0 ≤ exponent then Nat.pow 2 exponent.toNat else 1) *
    (if 0 ≤ power then 1 else Nat.pow 10 power.natAbs)
  let unit := (if 0 ≤ power then Nat.pow 10 power.toNat else 1) *
    (if 0 ≤ exponent then 1 else Nat.pow 2 exponent.natAbs)
  ({ b with lower := b.lower * scale, value := b.value * scale, upper := b.upper * scale }, unit)

/-- The digits of the decimal with the unit `10 ^ power` that is nearest to a number, if one is
rounded to it. -/
def digitsAt? (x : Double) (power : Int) : Option Nat :=
  let (b, unit) := x.basinAt power
  let below := b.value / unit
  let belowFits := b.mem (below * unit)
  let aboveFits := b.mem ((below + 1) * unit)
  if belowFits && aboveFits then some (roundRatio b.value unit)
  else if belowFits then some below
  else if aboveFits then some (below + 1)
  else none

/-- A power of ten that is greater than the number. -/
def powerAbove (x : Double) : Int :=
  ((Nat.log2 x.mantissa + 1 : Int) + x.exponent) * 30103 / 100000 + 2

/-- The fewest digits that are rounded to a number, and the power of ten that is their unit. -/
def shortest (x : Double) : Nat × Int :=
  if x.mantissa = 0 then (0, 0)
  else
    let powers := (List.range 24).map fun (n : Nat) => x.powerAbove - (n : Int)
    (powers.findSome? fun power => (x.digitsAt? power).map fun ds => (ds, power)).getD (0, 0)

end Double
end ProvisionWatch

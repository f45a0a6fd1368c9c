/-!
# Numbers of double precision

A number of double precision is a mantissa of at most 53 bits times a power of
two.  A ratio is rounded to the nearest one, and of two that are equally near to
the one with the even mantissa.  A number that is written with digits and an
exponent is rounded in two steps: first its digits, and then their product with,
or quotient by, the power of ten, which is itself rounded.

Main results:

- Theorem `ofRatio?_eq`: a ratio is rounded to a whole number of units of its
  last bit.
-/

namespace ProvisionWatch

/-- The number `mantissa * 2 ^ exponent`. -/
structure Double where
  mantissa : Nat
  exponent : Int
deriving DecidableEq, Repr

namespace Double

/-! ## Rounding -/

/-- The exponents of the smallest and the greatest numbers. -/
def leastExponent : Int := -1074

@[inherit_doc leastExponent]
def greatestExponent : Int := 971

/-- The least mantissa of 53 bits. -/
def fullMantissa : Nat := 4503599627370496

/-- Nothing. -/
def zero : Double :=
  { mantissa := 0, exponent := leastExponent }

/-- The whole number nearest to a ratio, and of two the even one. -/
def roundRatio (num den : Nat) : Nat :=
  let whole := num / den
  let twice := 2 * (num % den)
  if den < twice ∨ (twice = den ∧ whole % 2 = 1) then whole + 1 else whole

/-- The ratio `num / den` in units of a power of two, as a ratio. -/
def inUnits (num den : Nat) (exponent : Int) : Nat × Nat :=
  if 0 ≤ exponent then (num, den * Nat.pow 2 exponent.toNat)
  else (num * Nat.pow 2 exponent.natAbs, den)

/-- The exponent with which a ratio has a mantissa of 53 bits, unless it is too small for one. -/
def exponentFor (num den : Nat) : Int :=
  let guess : Int := (Nat.log2 num : Int) - Nat.log2 den - 52
  let (a, b) := inUnits num den guess
  let exponent := if a < b * fullMantissa then guess - 1 else guess
  if exponent < leastExponent then leastExponent else exponent

/-- The number nearest to a ratio, unless it is beyond all of them. -/
def ofRatio? (num den : Nat) : Option Double :=
  if num = 0 then some zero
  else
    let exponent := exponentFor num den
    let (a, b) := inUnits num den exponent
    let mantissa := roundRatio a b
    let (mantissa, exponent) :=
      if mantissa = 2 * fullMantissa then (fullMantissa, exponent + 1) else (mantissa, exponent)
    if greatestExponent < exponent then none
    else some { mantissa := mantissa, exponent := exponent }

/-- A mantissa that is rounded up to 54 bits is the least one of 53 bits with the next exponent. -/
def carry (mantissa : Nat) (exponent : Int) : Double :=
  if mantissa = 2 * fullMantissa then { mantissa := fullMantissa, exponent := exponent + 1 }
  else { mantissa := mantissa, exponent := exponent }

/-- The number nearest to a ratio among those whose last bit is a given power of two. -/
def nearestWith (num den : Nat) (exponent : Int) : Double :=
  carry (roundRatio (inUnits num den exponent).1 (inUnits num den exponent).2) exponent

/-- A ratio that is not nothing is rounded in units of the last bit that it has with 53 bits, unless
the number is then too great. -/
theorem ofRatio?_eq {num : Nat} (hnum : num ≠ 0) (den : Nat) :
    ofRatio? num den =
      if greatestExponent < (nearestWith num den (exponentFor num den)).exponent then none
      else some (nearestWith num den (exponentFor num den)) := by
  -- The exponent is a variable here: the one of the ratio would be evaluated.
  have hwith : ∀ e : Int,
      (let exponent := e
       let (a, b) := inUnits num den exponent
       let mantissa := roundRatio a b
       let (mantissa, exponent) :=
         if mantissa = 2 * fullMantissa then (fullMantissa, exponent + 1) else (mantissa, exponent)
       if greatestExponent < exponent then none
       else some { mantissa := mantissa, exponent := exponent : Double }) =
      if greatestExponent < (nearestWith num den e).exponent then none
      else some (nearestWith num den e) := by
    intro e
    unfold nearestWith carry
    dsimp only
    split <;> rfl
  exact (if_neg hnum).trans (hwith (exponentFor num den))

/-! ## Products and quotients -/

/-- A number as a ratio. -/
def ratio (x : Double) : Nat × Nat :=
  if 0 ≤ x.exponent then (x.mantissa * Nat.pow 2 x.exponent.toNat, 1)
  else (x.mantissa, Nat.pow 2 x.exponent.natAbs)

/-- The product, unless it is too great. -/
def mul? (x y : Double) : Option Double :=
  let (a, b) := x.ratio
  let (c, d) := y.ratio
  ofRatio? (a * c) (b * d)

/-- The quotient by a number that is not nothing, unless it is too great. -/
def div? (x y : Double) : Option Double :=
  let (a, b) := x.ratio
  let (c, d) := y.ratio
  ofRatio? (a * d) (b * c)

/-! ## Digits and powers of ten -/

/-- The greatest power of ten that is rounded by itself. -/
def greatestPower : Nat := 308

/-- The number `digits * 10 ^ exponent`, unless it is too great.  A number that is very small is
divided twice. -/
def ofDecimal? (digits : Nat) (exponent : Int) : Option Double := do
  let x ← ofRatio? digits 1
  let power (n : Nat) : Option Double := ofRatio? (Nat.pow 10 n) 1
  if exponent.natAbs ≤ greatestPower then
    if 0 ≤ exponent then x.mul? (← power exponent.toNat)
    else x.div? (← power exponent.natAbs)
  else if digits = 0 then
    return zero
  else if 0 ≤ exponent then
    none
  else if exponent < -2 * (greatestPower : Int) then
    return zero
  else
    let y ← x.div? (← power greatestPower)
    y.div? (← power (exponent.natAbs - greatestPower))

end Double
end ProvisionWatch

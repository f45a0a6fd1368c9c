/-!
# Numbers to base sixteen

Digits and numbers to base sixteen, with small or with capital letters.

Main results:

- Theorems `hexDigitValue?_hexDigit` and `hexDigitValue?_capitalHexDigit`: digits are
  read as they are written.
- Theorem `hexValue_hexDigits`: so are numbers.
-/

namespace ProvisionWatch
namespace Text

/-- A digit to base sixteen, with small letters. -/
def hexDigit (n : Nat) : Char :=
  if n < 10 then Char.ofNat (48 + n) else Char.ofNat (87 + n)

/-- A digit to base sixteen, with capital letters. -/
def capitalHexDigit (n : Nat) : Char :=
  if n < 10 then Char.ofNat (48 + n) else Char.ofNat (55 + n)

/-- A number to base sixteen, without leading zeros. -/
def hexDigits (n : Nat) : List Char :=
  if n < 16 then [hexDigit n] else hexDigits (n / 16) ++ [hexDigit (n % 16)]
termination_by n

/-- The value of a digit to base sixteen, with small or capital letters. -/
def hexDigitValue? (c : Char) : Option Nat :=
  if '0' ≤ c ∧ c ≤ '9' then some (c.toNat - 48)
  else if 'a' ≤ c ∧ c ≤ 'f' then some (c.toNat - 87)
  else if 'A' ≤ c ∧ c ≤ 'F' then some (c.toNat - 55)
  else none

/-- The number written by digits to base sixteen; anything else counts as a zero. -/
def hexValue (cs : List Char) : Nat :=
  cs.foldl (fun n c => n * 16 + (hexDigitValue? c).getD 0) 0

/-- A digit is read as it is written. -/
@[simp]
theorem hexDigitValue?_hexDigit {n : Nat} (h : n < 16) : hexDigitValue? (hexDigit n) = some n := by
  have hall : ∀ n < 16, hexDigitValue? (hexDigit n) = some n := by
    decide +kernel
  exact hall n h

/-- A digit with a capital letter is read as it is written. -/
@[simp]
theorem hexDigitValue?_capitalHexDigit {n : Nat} (h : n < 16) :
    hexDigitValue? (capitalHexDigit n) = some n := by
  have hall : ∀ n < 16, hexDigitValue? (capitalHexDigit n) = some n := by
    decide +kernel
  exact hall n h

/-- A number is read as it is written. -/
@[simp]
theorem hexValue_hexDigits (n : Nat) : hexValue (hexDigits n) = n := by
  induction n using hexDigits.induct with
  | case1 n h => simp [hexDigits, hexValue, h]
  | case2 n h ih =>
      have hlast : n % 16 < 16 := Nat.mod_lt n (by decide)
      rw [hexValue] at ih
      rw [hexDigits, if_neg h, hexValue, List.foldl_append, ih, List.foldl_cons, List.foldl_nil,
        hexDigitValue?_hexDigit hlast, Option.getD_some]
      omega

end Text
end ProvisionWatch

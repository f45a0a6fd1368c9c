/-!
# Decimal numbers

Whole numbers are written with the fewest digits and read back from digits
with any number of leading zeros.  Only the ten ASCII digits count.

Main results:

- Theorem `ofDigits_digits`: a number reads back from its own digits.
- Theorem `digits_ne_nil`: every number has at least one digit.
-/

namespace ProvisionWatch
namespace Text

/-- The value of an ASCII digit. -/
def digitValue? (c : Char) : Option Nat :=
  if '0' ≤ c ∧ c ≤ '9' then some (c.toNat - 48) else none

/-- The digit that stands for `n % 10`. -/
def digitChar (n : Nat) : Char :=
  Char.ofNat (48 + n % 10)

/-- The decimal digits of a number, without leading zeros. -/
def digits (n : Nat) : List Char :=
  if n < 10 then [digitChar n] else digits (n / 10) ++ [digitChar n]
termination_by n

/-- Read digits on from a value; anything but a digit fails. -/
@[simp]
def readDigits (value : Nat) : List Char → Option Nat
  | [] => some value
  | c :: cs => (digitValue? c).bind fun d => readDigits (value * 10 + d) cs

/-- The number written by a non-empty list of digits. -/
def ofDigits : List Char → Option Nat
  | [] => none
  | cs => readDigits 0 cs

/-- The number as text. -/
def natText (n : Nat) : String :=
  String.ofList (digits n)

/-- The number as text, with a minus sign when it is negative. -/
def intText : Int → String
  | .ofNat n => natText n
  | .negSucc n => "-" ++ natText (n + 1)

/-- The number with zeros in front up to the given width. -/
def paddedText (width n : Nat) : String :=
  let ds := digits n
  String.ofList (List.replicate (width - ds.length) '0' ++ ds)

/-- An unsigned number: digits, with an optional plus sign in front. -/
def readUnsigned : List Char → Option Nat
  | '+' :: cs => ofDigits cs
  | cs => ofDigits cs

/-- A signed number: digits, with an optional sign in front. -/
def readSigned : List Char → Option Int
  | '-' :: cs => (ofDigits cs).map fun n => - (n : Int)
  | '+' :: cs => (ofDigits cs).map fun n => (n : Int)
  | cs => (ofDigits cs).map fun n => (n : Int)

/-- A digit has the value it was written for. -/
@[simp]
theorem digitValue?_digitChar (n : Nat) : digitValue? (digitChar n) = some (n % 10) := by
  have h : n % 10 < 10 := Nat.mod_lt _ (by decide)
  unfold digitChar
  generalize n % 10 = k at h
  match k, h with
  | 0, _ | 1, _ | 2, _ | 3, _ | 4, _ | 5, _ | 6, _ | 7, _ | 8, _ | 9, _ => rfl

/-- A number is written with digits only. -/
theorem isSome_of_mem_digits {n : Nat} : ∀ c ∈ digits n, (digitValue? c).isSome = true := by
  induction n using Nat.strongRecOn with
  | _ n ih =>
      rw [digits]
      intro c hc
      split at hc
      · rw [List.mem_singleton.mp hc, digitValue?_digitChar]
        rfl
      · rcases List.mem_append.mp hc with hc | hc
        · exact ih (n / 10) (by omega) c hc
        · rw [List.mem_singleton.mp hc, digitValue?_digitChar]
          rfl

/-- Every number has a digit. -/
@[simp]
theorem digits_ne_nil (n : Nat) : digits n ≠ [] := by
  rw [digits]
  split <;> simp

/-- Digits can be read in two goes. -/
@[simp]
theorem readDigits_append (value : Nat) (cs ds : List Char) :
    readDigits value (cs ++ ds) = (readDigits value cs).bind fun v => readDigits v ds := by
  induction cs generalizing value with
  | nil => rfl
  | cons c cs ih =>
      simp only [List.cons_append, readDigits]
      cases digitValue? c with
      | none => rfl
      | some d => simpa using ih _

/-- The digits of a number are read as that number. -/
@[simp]
theorem readDigits_digits (n : Nat) : readDigits 0 (digits n) = some n := by
  induction n using Nat.strongRecOn with
  | _ n ih =>
      rw [digits]
      split
      · rename_i h
        simp [Nat.mod_eq_of_lt h]
      · rename_i h
        rw [readDigits_append, ih (n / 10) (by omega)]
        simp only [Option.bind_some, readDigits, digitValue?_digitChar, Option.some.injEq]
        omega

/-- A number reads back from its digits. -/
@[simp]
theorem ofDigits_digits (n : Nat) : ofDigits (digits n) = some n := by
  unfold ofDigits
  split
  · rename_i h
    exact absurd h (digits_ne_nil n)
  · exact readDigits_digits n

end Text
end ProvisionWatch

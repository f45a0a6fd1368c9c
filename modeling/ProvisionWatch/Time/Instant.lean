import ProvisionWatch.Time.Calendar
import ProvisionWatch.Time.Span

/-!
# Instants

An instant is a second of universal time and a fraction of it in nanoseconds.
A fraction of a whole second or more lies in the leap second that follows the
counted one.  Only years from -262143 to 262142 can be represented, so adding
a span may fail.

An instant inside a leap second is ordered after the second it follows and
before the next.  A span that leaves the leap second counts from its start when
it goes forwards and from its end when it goes backwards.

Main results:

- Theorem `add?_zero`: adding nothing changes nothing.
-/

namespace ProvisionWatch

/-- The first second that can be represented. -/
def firstSecond : Int := -8334601228800

/-- The last second that can be represented. -/
def lastSecond : Int := 8210266876799

/-- A point in time. -/
structure Instant where
  second : Int
  nano : Nat
  nano_lt : nano < 2000000000
  first_le : firstSecond ≤ second
  le_last : second ≤ lastSecond
deriving DecidableEq

namespace Instant

/-- The instant with a second and a fraction, if it can be represented. -/
def of? (second : Int) (nano : Nat) : Option Instant :=
  if h : nano < 2000000000 ∧ firstSecond ≤ second ∧ second ≤ lastSecond then
    some ⟨second, nano, h.1, h.2.1, h.2.2⟩
  else
    none

/-- The first instant. -/
def earliest : Instant :=
  ⟨firstSecond, 0, by decide, by decide, by decide⟩

/-- The last instant outside of a leap second. -/
def latest : Instant :=
  ⟨lastSecond, 999999999, by decide, by decide, by decide⟩

instance : Inhabited Instant := ⟨⟨0, 0, by decide, by decide, by decide⟩⟩

/-- Whether an instant lies in a leap second. -/
def inLeapSecond (t : Instant) : Bool :=
  1000000000 ≤ t.nano

/-! ## Order -/

/-- The earlier second comes first, and in one second the smaller fraction. -/
instance : LE Instant where
  le a b := a.second < b.second ∨ (a.second = b.second ∧ a.nano ≤ b.nano)

/-- Strictly earlier. -/
instance : LT Instant where
  lt a b := a.second < b.second ∨ (a.second = b.second ∧ a.nano < b.nano)

instance (a b : Instant) : Decidable (a ≤ b) :=
  inferInstanceAs (Decidable (a.second < b.second ∨ (a.second = b.second ∧ a.nano ≤ b.nano)))

instance (a b : Instant) : Decidable (a < b) :=
  inferInstanceAs (Decidable (a.second < b.second ∨ (a.second = b.second ∧ a.nano < b.nano)))

/-- What it is to be no later. -/
@[grind =]
theorem le_def (a b : Instant) :
    a ≤ b ↔ a.second < b.second ∨ (a.second = b.second ∧ a.nano ≤ b.nano) :=
  Iff.rfl

/-- What it is to be earlier. -/
@[grind =]
theorem lt_def (a b : Instant) :
    a < b ↔ a.second < b.second ∨ (a.second = b.second ∧ a.nano < b.nano) :=
  Iff.rfl

/-! ## Moving in time -/

/-- Second and fraction after moving from outside of a leap second. -/
def carry (second nano : Int) : Option Instant :=
  if nano < 0 then of? (second - 1) (nano + 1000000000).toNat
  else if 1000000000 ≤ nano then of? (second + 1) (nano - 1000000000).toNat
  else of? second nano.toNat

/-- The instant a span later, if it can be represented. -/
def add? (t : Instant) (s : Span) : Option Instant :=
  let seconds := s.wholeSeconds
  let nanos := s.nanosBesideSeconds
  if t.inLeapSecond then
    if 0 < seconds ∨ (0 < nanos ∧ 2000000000 ≤ t.nano + nanos) then
      carry (t.second + seconds) (t.nano - 1000000000 + nanos)
    else if seconds < 0 then
      carry (t.second + 1 + seconds) (t.nano - 1000000000 + nanos)
    else
      of? t.second (t.nano + nanos).toNat
  else
    carry (t.second + seconds) (t.nano + nanos)

/-- The instant a span earlier, if it can be represented. -/
def sub? (t : Instant) (s : Span) : Option Instant :=
  t.add? s.opposite

/-- The time from one instant to a later one.  A leap second counts when the
other instant stands at another second of its day. -/
def since (later earlier : Instant) : Span :=
  let a := later.second % 86400
  let b := earlier.second % 86400
  let leap : Int :=
    if b < a then (if earlier.inLeapSecond then 1 else 0)
    else if a < b then (if later.inLeapSecond then -1 else 0)
    else 0
  ⟨(later.second - earlier.second + leap) * 1000000000 + ((later.nano : Int) - earlier.nano)⟩

/-- The parts of an instant make it up. -/
@[simp]
theorem of?_self (t : Instant) : of? t.second t.nano = some t := by
  simp [of?, t.nano_lt, t.first_le, t.le_last]

/-- An instant stands where it is when no time is added, in a leap second too. -/
@[simp]
theorem add?_zero (t : Instant) : t.add? ⟨0⟩ = some t := by
  by_cases hl : t.inLeapSecond = true
  · simp [add?, hl, Span.wholeSeconds, Span.nanosBesideSeconds]
  · have hlt : t.nano < 1000000000 := by
      simpa [inLeapSecond] using hl
    have h1 : ¬ (t.nano : Int) < 0 := by omega
    have h2 : ¬ (1000000000 : Int) ≤ t.nano := by omega
    simp [add?, hl, Span.wholeSeconds, Span.nanosBesideSeconds, carry, h1, h2]

/-! ## Coarser instants -/

/-- The instant without its fraction of a second; a leap second keeps its place. -/
def cutToSeconds (t : Instant) : Instant :=
  { t with
    nano := t.nano / 1000000000 * 1000000000
    nano_lt := Nat.lt_of_le_of_lt (Nat.div_mul_le_self _ _) t.nano_lt }

/-- The instant without what is finer than a microsecond. -/
def cutToMicros (t : Instant) : Instant :=
  { t with
    nano := t.nano / 1000 * 1000
    nano_lt := Nat.lt_of_le_of_lt (Nat.div_mul_le_self _ _) t.nano_lt }

/-- The day of an instant. -/
def date (t : Instant) : Date :=
  .ofDayNumber (t.second / 86400)

/-- The instant, if its year is written with four digits. -/
def inPlainYear? (t : Instant) : Option Instant :=
  let year := t.date.year
  if 0 ≤ year ∧ year ≤ 9999 then some t else none

end Instant
end ProvisionWatch

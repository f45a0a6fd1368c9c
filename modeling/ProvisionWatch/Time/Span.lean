/-!
# Lengths of time

A `Duration` is a length of time that cannot be negative, in nanoseconds.  A
`Span` is a signed length of time, as between two instants.  The longest span
is `2 ^ 63 - 1` milliseconds, and a longer duration becomes exactly that.

Main results:

- Theorem `Duration.wholeSeconds_ofSeconds`: whole seconds are told as they were given.
-/

namespace ProvisionWatch

/-- A signed length of time. -/
structure Span where
  nanos : Int
deriving DecidableEq, Repr, Inhabited

/-- A length of time that is not negative. -/
structure Duration where
  nanos : Nat
deriving DecidableEq, Repr, Inhabited

namespace Span

/-- Longer spans last longer. -/
instance : LE Span where
  le a b := a.nanos ≤ b.nanos

instance (a b : Span) : Decidable (a ≤ b) :=
  inferInstanceAs (Decidable (a.nanos ≤ b.nanos))

/-- So many seconds. -/
def ofSeconds (n : Int) : Span :=
  ⟨n * 1000000000⟩

/-- So many milliseconds. -/
def ofMillis (n : Int) : Span :=
  ⟨n * 1000000⟩

/-- The longest span. -/
def longest : Span :=
  ofMillis 9223372036854775807

/-- The same length in the other direction. -/
def opposite (s : Span) : Span :=
  ⟨-s.nanos⟩

/-- The whole seconds in a span, cut towards zero. -/
def wholeSeconds (s : Span) : Int :=
  s.nanos.tdiv 1000000000

/-- What is left of a span beside its whole seconds, with the sign of the span. -/
def nanosBesideSeconds (s : Span) : Int :=
  s.nanos.tmod 1000000000

end Span

namespace Duration

/-- So many seconds. -/
def ofSeconds (n : Nat) : Duration :=
  ⟨n * 1000000000⟩

/-- So many milliseconds. -/
def ofMillis (n : Nat) : Duration :=
  ⟨n * 1000000⟩

/-- Whether no time passes at all. -/
def isZero (d : Duration) : Bool :=
  d.nanos == 0

/-- The whole seconds in a duration. -/
def wholeSeconds (d : Duration) : Nat :=
  d.nanos / 1000000000

/-- The duration as a span, at most the longest one. -/
def toSpan (d : Duration) : Span :=
  if (d.nanos : Int) ≤ Span.longest.nanos then ⟨d.nanos⟩ else Span.longest

/-- Whole seconds are told as they were given. -/
@[simp]
theorem wholeSeconds_ofSeconds (n : Nat) : (ofSeconds n).wholeSeconds = n := by
  simp [ofSeconds, wholeSeconds]

end Duration
end ProvisionWatch

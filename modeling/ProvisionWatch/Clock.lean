import ProvisionWatch.Time.Instant

/-!
# A clock that moves when told to

The clock stands still between its moves.  A move beyond the range of instants
fails and breaks the clock: it still shows its time but never moves again.
-/

namespace ProvisionWatch

/-- A clock that only moves when it is told to. -/
structure ManualClock where
  now : Instant
  broken : Bool
deriving DecidableEq

namespace ManualClock

/-- A clock that shows a time. -/
def new (now : Instant) : ManualClock :=
  { now := now, broken := false }

/-- Move by a span; the answer tells whether this move broke the clock. -/
def advance (c : ManualClock) (span : Span) : ManualClock × Bool :=
  if c.broken then
    (c, false)
  else
    match c.now.add? span with
    | some now => ({ c with now := now }, false)
    | none => ({ c with broken := true }, true)

/-- Set to an instant. -/
def set (c : ManualClock) (now : Instant) : ManualClock :=
  if c.broken then c else { c with now := now }

end ManualClock
end ProvisionWatch

import ProvisionWatch.Event.Basic

/-!
# Retained events

A window of the events seen lately, in the order they arrived.  It is bounded
by number and by age: when it is pruned, dated events that happened before the
cutoff go, and then the oldest arrivals until the number is kept.  An undated
event never gets too old.

The cutoff may lie before the first instant there is.  Pruning then fails and
leaves the window as it is.  A window makes room for all of its events at once,
which is not possible for every number of them.

Main results:

- Theorem `length_pruned_le`: a pruned window keeps its number.
- Theorem `pruned_suffix`: pruning takes a suffix of what is fresh.
-/

namespace ProvisionWatch

/-- An instant that cannot be represented was needed. -/
inductive RangeFault where
  | beforeFirstInstant
deriving DecidableEq, Repr

/-- How many events are kept, and for how long. -/
structure Retention where
  count : Nat
  age : Span
deriving DecidableEq, Repr

/-- For more events than this there is no room: each takes 184 bytes, and all of them together
less than half of what can be addressed. -/
def mostRetained : Nat := 50127021939428129

/-- Whether there is room for the events. -/
def Retention.fits (r : Retention) : Bool :=
  r.count ≤ mostRetained

/-- Fifty events, for two minutes. -/
def Retention.standard : Retention :=
  { count := 50, age := .ofSeconds 120 }

/-- The events seen lately. -/
structure Window where
  retention : Retention
  /-- The events, the first that arrived in front. -/
  events : List Event
deriving DecidableEq

namespace Window

/-- A window without events. -/
def empty (retention : Retention) : Window :=
  { retention := retention, events := [] }

/-- Whether an event is undated or did not happen before the cutoff. -/
def isFresh (cutoff : Instant) (e : Event) : Bool :=
  match e.timestamp with
  | none => true
  | some t => cutoff ≤ t

/-- The last so many entries of a list. -/
def lastOf (n : Nat) (es : List α) : List α :=
  es.drop (es.length - n)

/-- What is left of events after pruning. -/
def pruned (retention : Retention) (cutoff : Instant) (es : List Event) : List Event :=
  lastOf retention.count (es.filter (isFresh cutoff))

/-- Prune the window. -/
def prune (w : Window) (now : Instant) : Window × Except RangeFault Unit :=
  match now.sub? w.retention.age with
  | some cutoff => ({ w with events := pruned w.retention cutoff w.events }, .ok ())
  | none => (w, .error .beforeFirstInstant)

/-- Add an event and prune the window.  If pruning fails the event stays. -/
def push (w : Window) (e : Event) (now : Instant) : Window × Except RangeFault Unit :=
  prune { w with events := w.events ++ [e] } now

/-- The events, the last that arrived in front. -/
def newestFirst (w : Window) : List Event :=
  w.events.reverse

/-- No more than the given number of elements is kept. -/
theorem length_lastOf_le (n : Nat) (es : List α) : (lastOf n es).length ≤ n := by
  simp only [lastOf, List.length_drop]
  omega

/-- A pruned window holds no more than its retention allows. -/
theorem length_pruned_le (retention : Retention) (cutoff : Instant) (es : List Event) :
    (pruned retention cutoff es).length ≤ retention.count :=
  length_lastOf_le _ _

/-- What is kept are the last of the events that are not too old. -/
theorem pruned_suffix (retention : Retention) (cutoff : Instant) (es : List Event) :
    pruned retention cutoff es <:+ es.filter (isFresh cutoff) :=
  List.drop_suffix _ _

end Window
end ProvisionWatch

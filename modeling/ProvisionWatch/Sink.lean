import ProvisionWatch.Target
import ProvisionWatch.Update.Basic

/-!
# Sinks

Updates are handed to a sink, which takes them or refuses them at once and
never waits for its observer.  The usual sink is a queue of limited length: it
refuses what does not fit, and everything once its observer has gone.

Main results:

- Theorem `length_offer_le`: a queue never holds more than it can.
-/

namespace ProvisionWatch

/-- Why a sink refuses an update. -/
inductive SinkError where
  | disconnected
  | full
deriving DecidableEq, Repr

/-- The refusal in words. -/
def SinkError.text : SinkError → String
  | disconnected => "observer disconnected"
  | full => "observer queue is full"

/-- A queue of limited length between subscriptions and an observer. -/
structure SinkQueue where
  capacity : Nat
  entries : List (Target × Update)
  /-- The observer has gone. -/
  closed : Bool
deriving DecidableEq

namespace SinkQueue

/-- The most that a queue can be made to hold. -/
def mostEntries : Nat := 2305843009213693951

/-- Whether a queue can be made to hold so much.  It holds one entry at least. -/
def canHold (capacity : Nat) : Bool :=
  0 < capacity && capacity ≤ mostEntries

/-- An empty queue. -/
def new (capacity : Nat) : SinkQueue :=
  { capacity := capacity, entries := [], closed := false }

/-- Hand over an update; the answer is the refusal, if it is refused. -/
def offer (q : SinkQueue) (target : Target) (u : Update) : SinkQueue × Option SinkError :=
  if q.closed then (q, some .disconnected)
  else if q.capacity ≤ q.entries.length then (q, some .full)
  else ({ q with entries := q.entries ++ [(target, u)] }, none)

/-- The observer takes the first entry. -/
def receive (q : SinkQueue) : SinkQueue × Option (Target × Update) :=
  match q.entries with
  | [] => (q, none)
  | e :: rest => ({ q with entries := rest }, some e)

/-- The observer takes all entries. -/
def drain (q : SinkQueue) : SinkQueue × List (Target × Update) :=
  ({ q with entries := [] }, q.entries)

/-- The observer goes, and what is queued with it. -/
def close (q : SinkQueue) : SinkQueue :=
  { q with entries := [], closed := true }

/-- A queue that holds no more than it can does so after one more offer. -/
theorem length_offer_le (q : SinkQueue) (target : Target) (u : Update)
    (h : q.entries.length ≤ q.capacity) :
    (q.offer target u).1.entries.length ≤ (q.offer target u).1.capacity := by
  unfold offer
  split
  · exact h
  · split
    · exact h
    · simp only [List.length_append, List.length_singleton]
      omega

end SinkQueue
end ProvisionWatch

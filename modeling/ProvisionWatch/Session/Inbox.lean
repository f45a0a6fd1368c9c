import ProvisionWatch.Session.Run

/-!
# What waits for a session

Items arrive while a session is busy.  It takes them one at a time in a fixed
order: first a cancellation, then the changes as they came, then the events as
they came, then the timer.

Main results:

- Theorem `next?_cancelled`: a cancellation goes before all else.
- Theorem `next?_change`: a waiting change goes before events and the timer.
-/

namespace ProvisionWatch

/-- What waits for a session. -/
structure Inbox where
  resources : List ResourceItem
  events : List EventItem
  tickDue : Bool

namespace Inbox

/-- Nothing waits. -/
def empty : Inbox :=
  { resources := [], events := [], tickDue := false }

/-- An input arrives.  A timer that is due already stays so. -/
def add (b : Inbox) : Input → Inbox
  | .resource item => { b with resources := b.resources ++ [item] }
  | .event item => { b with events := b.events ++ [item] }
  | .tick => { b with tickDue := true }

/-- What a session turns to next, and what waits then.  Events wait in vain where there is no
stream of events. -/
def next? (b : Inbox) (cancelled hearsEvents : Bool) : Option (Signal × Inbox) :=
  if cancelled then
    some (.cancel, b)
  else
    match b.resources with
    | item :: rest => some (.input (.resource item), { b with resources := rest })
    | [] =>
        match if hearsEvents then b.events else [] with
        | item :: rest => some (.input (.event item), { b with events := rest })
        | [] => if b.tickDue then some (.input .tick, { b with tickDue := false }) else none

/-- Whoever was told to stop hears of that first, and nothing is taken out. -/
@[simp]
theorem next?_cancelled (b : Inbox) (hearsEvents : Bool) :
    b.next? true hearsEvents = some (.cancel, b) :=
  rfl

/-- Else the first thing about the deployment comes first. -/
theorem next?_change (b : Inbox) (hearsEvents : Bool) (item : ResourceItem)
    (rest : List ResourceItem) (h : b.resources = item :: rest) :
    b.next? false hearsEvents = some (.input (.resource item), { b with resources := rest }) := by
  simp [next?, h]

end Inbox
end ProvisionWatch

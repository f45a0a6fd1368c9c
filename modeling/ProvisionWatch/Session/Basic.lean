import ProvisionWatch.Subscription.Delivery
import ProvisionWatch.Subscription.Inputs
import ProvisionWatch.Subscription.Timer
import ProvisionWatch.Watch

/-!
# Sessions

A session is a subscription while it streams.  It takes one input at a time: an
item of the stream of changes, an item of the stream of events, or a tick of
its timer.  Each input has effects, and may end the session.

Main results:

- Theorem `react_delivered_last`: when a delivered update ends a session, the
  ending says so.
-/

namespace ProvisionWatch

/-! ## Inputs -/

/-- An item of the stream of changes. -/
inductive ResourceItem where
  | change (change : Change)
  | error (error : WatchError)
  | ended

/-- An item of the stream of events. -/
inductive EventItem where
  | event (event : Event)
  | error (error : WatchError)
  | ended

/-- One input of a session. -/
inductive Input where
  | resource (item : ResourceItem)
  | event (item : EventItem)
  | tick

/-! ## Effects -/

/-- The stream an error came from. -/
inductive StreamKind where
  | resource
  | events
deriving DecidableEq, Repr

/-- The name of a stream. -/
def StreamKind.text : StreamKind → String
  | resource => "resource"
  | events => "events"

/-- What an input brings about. -/
inductive Effect where
  | delivery (d : Delivery)
  | watchError (stream : StreamKind) (kind : WatchErrorKind)
  | stall
deriving DecidableEq

/-- Why a session ends. -/
inductive Ending where
  /-- The last update was terminal. -/
  | terminal
  | cancelled
  | timeout
  | watchClosed
  | watchFailed
  /-- The session broke down. -/
  | aborted
deriving DecidableEq, Repr

/-- The name of an ending. -/
def Ending.text : Ending → String
  | terminal => "terminal"
  | cancelled => "cancelled"
  | timeout => "timeout"
  | watchClosed => "watch_closed"
  | watchFailed => "watch_failed"
  | aborted => "aborted"

/-! ## Sessions -/

/-- A subscription while it streams. -/
structure Session where
  subscription : Subscription
  /-- Whether there is a stream of events. -/
  hearsEvents : Bool
deriving DecidableEq

/-- A session after an input, the effects of the input, and why it ended the session if it did. -/
structure Reaction where
  session : Session
  effects : List Effect
  ending : Option Ending
deriving DecidableEq

namespace Session

/-- Nothing happens. -/
def idle (s : Session) : Reaction :=
  { session := s, effects := [], ending := none }

/-- Where nothing happens the session stays as it is. -/
@[simp]
theorem session_idle (s : Session) : s.idle.session = s :=
  rfl

/-- Where nothing happens there are no effects. -/
@[simp]
theorem effects_idle (s : Session) : s.idle.effects = [] :=
  rfl

/-- Where nothing happens the session goes on. -/
@[simp]
theorem ending_idle (s : Session) : s.idle.ending = none :=
  rfl

/-- The session breaks down. -/
def breakDown (s : Session) (subscription : Subscription) : Reaction :=
  { session := { s with subscription := subscription }, effects := [], ending := some .aborted }

/-- Deliver an update after some effects. -/
def say (s : Session) (subscription : Subscription) (before : List Effect) (u : Update)
    (ending : Option Ending) : Reaction :=
  let (subscription, delivery) := subscription.deliver u
  { session := { s with subscription := subscription }
    effects := before ++ [.delivery delivery]
    ending := ending }

/-- Deliver an update that ends the session if it is terminal. -/
def report (s : Session) (subscription : Subscription) (u : Update) : Reaction :=
  s.say subscription [] u (if u.terminal then some .terminal else none)

/-- React to an item of the stream of changes. -/
def reactToResource (s : Session) (now : Instant) : ResourceItem → Reaction
  | .change change =>
      let (subscription, u) := s.subscription.applyChange change now
      s.report subscription u
  | .error e =>
      let seen := [Effect.watchError .resource e.recordedKind]
      if e.isTransient then
        { session := s, effects := seen, ending := none }
      else
        s.say s.subscription seen (s.subscription.watchFailedNotice e.text now) (some .watchFailed)
  | .ended => s.say s.subscription [] (s.subscription.watchClosedNotice now) (some .watchClosed)

/-- React to an item of the stream of events. -/
def reactToEvent (s : Session) (now : Instant) : EventItem → Reaction
  | .event e =>
      match s.subscription.applyEvent e now with
      | (subscription, .ok none) => ({ s with subscription := subscription } : Session).idle
      | (subscription, .ok (some u)) => s.report subscription u
      | (subscription, .error _) => s.breakDown subscription
  | .error e =>
      s.say s.subscription [.watchError .events e.recordedKind]
        (s.subscription.eventStreamNotice e.text now) none
  | .ended => ({ s with hearsEvents := false } : Session).idle

/-- React to a tick of the timer. -/
def reactToTick (s : Session) (now : Instant) : Reaction :=
  match s.subscription.tick now with
  | (subscription, .error _) => s.breakDown subscription
  | (subscription, .ok ticked) =>
      let seen := if ticked.stalled then [Effect.stall] else []
      match ticked.outcome with
      | .carryOn =>
          { session := { s with subscription := subscription }, effects := seen, ending := none }
      | .warning u => s.say subscription seen u none
      | .expired u => s.say subscription seen u (some .timeout)

/-- React to an input. -/
def react (s : Session) (now : Instant) : Input → Reaction
  | .resource item => s.reactToResource now item
  | .event item => s.reactToEvent now item
  | .tick => s.reactToTick now

/-- What is said does not decide how a reaction ends. -/
@[simp]
theorem say_ending (s : Session) (subscription : Subscription) (before : List Effect) (u : Update)
    (ending : Option Ending) : (s.say subscription before u ending).ending = ending :=
  rfl

/-- A report ends the session exactly when its update is terminal. -/
theorem react_delivered_last (s : Session) (subscription : Subscription) (u : Update) :
    (s.report subscription u).ending = some .terminal ↔ u.terminal = true := by
  cases h : u.terminal <;> simp [report, say, h]

end Session
end ProvisionWatch

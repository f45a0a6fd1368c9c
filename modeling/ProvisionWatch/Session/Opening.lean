import ProvisionWatch.Session.Basic

/-!
# Opening a session

Before a session streams, its subscription is seeded with the listed events,
takes in the fetched deployment and delivers the first update.  The newest
seeded event that says anything speaks up only if it moves the phase.
-/

namespace ProvisionWatch

/-- A session that is about to stream, what was said so far, and whether that was all. -/
structure Opening where
  session : Session
  effects : List Effect
  finished : Bool
deriving DecidableEq

namespace Subscription

/-- Take in the fetched deployment and deliver what it says. -/
def openFirst (s : Subscription) (d : Deployment) (now : Instant) : Subscription × Delivery :=
  let (s, u) := s.applyChange { deployment := d, kind := .added } now
  s.deliver u

/-- Let a seeded event speak up if it moves the phase. -/
def openReplay (s : Subscription) (newest : Option Event) (now : Instant) :
    Subscription × Option Delivery :=
  match newest with
  | none => (s, none)
  | some e =>
      let before := s.phase
      match s.replayEvent e now with
      | (s, none) => (s, none)
      | (s, some u) =>
          if u.phase = before then (s, none)
          else
            let (s, delivery) := s.deliver u
            (s, some delivery)

/-- Open a session. -/
def openWith (s : Subscription) (d : Deployment) (listed : List Event) (limit : Nat)
    (hearsEvents : Bool) (now : Instant) : Except RangeFault Opening :=
  match s.seed listed limit now with
  | (_, .error fault) => .error fault
  | (s, .ok newest) =>
      let (s, first) := s.openFirst d now
      if first.update.terminal then
        .ok { session := { subscription := s, hearsEvents := hearsEvents }
              effects := [.delivery first]
              finished := true }
      else
        let (s, second) := s.openReplay newest now
        .ok { session := { subscription := s, hearsEvents := hearsEvents }
              effects := .delivery first :: second.toList.map Effect.delivery
              finished := second.any fun d => d.update.terminal }

end Subscription
end ProvisionWatch

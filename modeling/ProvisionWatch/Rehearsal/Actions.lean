import ProvisionWatch.Rehearsal.Settling

/-!
# The actions of a rehearsal

What can be done in a rehearsal, what each action answers, and what can be
reported after it: what the sinks received, who is registered, and what was
counted.
-/

namespace ProvisionWatch

/-! ## Happenings -/

/-- What happens to the streams and to the clock. -/
inductive Happening where
  /-- A change arrives; it goes to the target it names itself unless another is given. -/
  | change (target : Option Target) (change : Change)
  | changeError (target : Target) (error : WatchError)
  | changesEnd (target : Target)
  /-- An event arrives on every stream of events. -/
  | event (event : Event)
  | eventError (error : WatchError)
  | eventsEnd
  | clockMoves (span : Span)

/-! ## Actions and outcomes -/

/-- What can be done in a rehearsal. -/
inductive Action where
  | insert (deployment : Deployment)
  | remove (target : Target)
  | list (events : List Event)
  | failFetch (error : WatchError)
  | failWatch (error : WatchError)
  | failList (error : WatchError)
  | failEventWatch (error : WatchError)
  | delayFetches (delay : Duration)
  /-- All happen before anybody reacts to one of them. -/
  | happen (happenings : List Happening)
  | bind
  | closeSink (sink : Nat)
  | hold
  | drain
  | subscribe (request : SubscribeRequest)
  /-- Subscribe to what a text describes. -/
  | subscribeText (caller raw : String)
  | unsubscribe (target : Target)
  | shutdown
  | readState (target : Target)
  | isSubscribed (target : Target)
  | heldBy (caller : String)
  | watches
  /-- Let the timer of every worker tick so many times. -/
  | tick (times : Nat)
  /-- Begin a call without waiting for it. -/
  | begin (name : String) (request : SubscribeRequest)
  | pass (duration : Duration)
  | poll (name : String)
  | abandon (name : String)

/-- What is open, and what the cluster was asked so far. -/
structure WatchReport where
  /-- The targets whose changes are watched. -/
  targets : List Target
  eventWatches : Nat
  fetches : Nat
  watchCalls : Nat
deriving DecidableEq, Repr

/-- What an action answers. -/
inductive Outcome where
  | done
  /-- The clock broke. -/
  | broke
  | returned (result : CallResult)
  /-- The text describes no request. -/
  | unreadable (error : RequestError)
  | pending
  | abandoned
  | truth (b : Bool)
  | number (n : Nat)
  | watches (report : WatchReport)

/-- What can be seen after an action. -/
structure Report where
  outcome : Outcome
  /-- What the sinks received, by sink, then by target. -/
  received : List (Nat × Target × Update)
  registered : List Target
  inUse : Nat
  counted : List (String × Int)

namespace Rehearsal

/-! ## What happens -/

/-- Let an input arrive for whoever watches a target. -/
def arriveAt (r : Rehearsal) (target : Target) (item : ResourceItem) : Rehearsal :=
  r.bring target (.resource item)

/-- Let an input arrive for everyone who hears events. -/
def arriveAll (r : Rehearsal) (item : EventItem) : Rehearsal :=
  (r.manager.workers.filter fun w => w.session.hearsEvents).foldl
    (fun r w => r.bring w.target (.event item)) r

/-- Move the clock; the answer tells whether it broke. -/
def moveClock (r : Rehearsal) (span : Span) : Rehearsal × Bool :=
  let (clock, broke) := r.clock.advance span
  (({ r with clock := clock } : Rehearsal).apply (.setClock clock.now), broke)

/-- Let something happen; the answer tells whether it broke the clock. -/
def happen (r : Rehearsal) : Happening → Rehearsal × Bool
  | .change target c =>
      (r.arriveAt (target.getD c.deployment.target) (.change c), false)
  | .changeError target e => (r.arriveAt target (.error e), false)
  | .changesEnd target => (r.arriveAt target .ended, false)
  | .event e => (r.arriveAll (.event e), false)
  | .eventError e => (r.arriveAll (.error e), false)
  | .eventsEnd => (r.arriveAll .ended, false)
  | .clockMoves span => r.moveClock span

/-- Let things happen one after the other until the clock breaks. -/
def happenAll (r : Rehearsal) : List Happening → Rehearsal × Bool
  | [] => (r, false)
  | h :: rest =>
      match r.happen h with
      | (r, true) => (r, true)
      | (r, false) => r.happenAll rest

/-! ## What is open -/

/-- Whether a stream has ended that an inbox is fed by. -/
def hasEnded (b : Inbox) : Bool :=
  b.resources.any fun
    | .ended => true
    | _ => false

/-- Whether a stream of events has ended that an inbox is fed by. -/
def eventsHaveEnded (b : Inbox) : Bool :=
  b.events.any fun
    | .ended => true
    | _ => false

/-- The target whose watch a call holds. -/
def heldTarget? : PendingCall → Option Target
  | .settingUp setup =>
      match setup.stage with
      | .watchingEvents _ | .listing _ _ =>
          if hasEnded setup.inbox then none else some setup.request.target
      | _ => none
  | _ => none

/-- Whether a call holds a watch of events. -/
def holdsEventWatch : PendingCall → Bool
  | .settingUp setup =>
      match setup.stage with
      | .listing _ hearsEvents => hearsEvents && !eventsHaveEnded setup.inbox
      | _ => false
  | _ => false

/-- What is open, and what the cluster was asked so far. -/
def watchReport (r : Rehearsal) : WatchReport :=
  let m := r.manager
  let watched := (m.workers.filter fun w => !hasEnded w.inbox).map Worker.target
  let hearing := m.workers.filter fun w => w.session.hearsEvents && !eventsHaveEnded w.inbox
  { targets :=
      (watched ++ m.calls.filterMap fun c => heldTarget? c.2).mergeSort Target.noLater
    eventWatches := hearing.length + (m.calls.filter fun c => holdsEventWatch c.2).length
    fetches := r.cluster.fetchCount
    watchCalls := r.cluster.watchCount }

/-! ## Sinks -/

/-- Bind a new sink. -/
def bindSink (r : Rehearsal) : Rehearsal :=
  let m := r.manager
  ({ r with manager := { m with sinks := m.sinks ++ [.new r.sinkCapacity] } } : Rehearsal).apply
    (.bind m.sinks.length)

/-- The observer of a sink goes. -/
def closeSink (r : Rehearsal) (sink : Nat) : Rehearsal :=
  { r with manager := { r.manager with sinks := r.manager.sinks.modify sink SinkQueue.close } }

/-- Updates by their sinks, then by their targets. -/
def receivedNoLater (a b : Nat × Target × Update) : Bool :=
  a.1 < b.1 || (a.1 == b.1 && Target.noLater a.2.1 b.2.1)

/-- Take everything out of the sinks. -/
def collect (r : Rehearsal) : Rehearsal × List (Nat × Target × Update) :=
  let received := r.manager.sinks.zipIdx.flatMap fun (q, n) =>
    q.drain.2.map fun (target, u) => (n, target, u)
  ({ r with manager := { r.manager with sinks := r.manager.sinks.map fun q => q.drain.1 } },
    received.mergeSort receivedNoLater)

/-! ## Calls -/

/-- Begin a call under the next number. -/
def beginCall (r : Rehearsal) (label : Nat → Label) : Rehearsal × Nat :=
  (({ r with nextCall := r.nextCall + 1 } : Rehearsal).apply (label r.nextCall), r.nextCall)

/-- What a call has come to. -/
def outcomeOf (r : Rehearsal) (call : Nat) : Outcome :=
  match r.results.lookup call with
  | some result => .returned result
  | none => if r.abandoned.contains call then .abandoned else .pending

/-- Begin a call and wait until it returns. -/
def callAndWait (r : Rehearsal) (label : Nat → Label) : Rehearsal × Outcome :=
  let (r, call) := r.beginCall label
  let r := r.await call
  (r, r.outcomeOf call)

/-- Give up a call that has not returned. -/
def abandonCall (r : Rehearsal) (call : Nat) : Rehearsal :=
  if (r.manager.call? call).isSome then
    ({ r with
        abandoned := call :: r.abandoned
        fetches := r.fetches.filter fun f => f.2 != call } : Rehearsal).apply (.abandon call)
  else r

/-- Let the timer of every worker tick so many times. -/
def passTicks (r : Rehearsal) : Nat → Rehearsal
  | 0 => r
  | n + 1 => (r.pass r.policy.config.tickInterval).passTicks n

/-! ## Actions -/

/-- Change the cluster. -/
def changeCluster (r : Rehearsal) (f : MemoryCluster → MemoryCluster) : Rehearsal × Outcome :=
  ({ r with cluster := f r.cluster }, .done)

/-- Do something. -/
def act (r : Rehearsal) : Action → Rehearsal × Outcome
  | .insert d => r.changeCluster fun c => c.insert d
  | .remove target => r.changeCluster fun c => c.remove target
  | .list events => r.changeCluster fun c => { c with events := events }
  | .failFetch e => r.changeCluster fun c => { c with fetchFault := some e }
  | .failWatch e => r.changeCluster fun c => { c with watchFault := some e }
  | .failList e => r.changeCluster fun c => { c with listFault := some e }
  | .failEventWatch e => r.changeCluster fun c => { c with eventWatchFault := some e }
  | .delayFetches delay => ({ r with fetchDelay := delay }, .done)
  | .happen happenings =>
      let (r, broke) := r.happenAll happenings
      (r.settle, if broke then .broke else .done)
  | .bind => (r.bindSink, .done)
  | .closeSink sink => (r.closeSink sink, .done)
  | .hold => ({ r with held := true }, .done)
  | .drain => ({ r with held := false }, .done)
  | .subscribe request => r.callAndWait fun call => .subscribe call request
  | .subscribeText caller raw =>
      match Request.read raw with
      | .error e => (r, .unreadable e)
      | .ok request => r.callAndWait fun call =>
          .subscribe call { caller := caller, target := request.target, timeout := request.timeout }
  | .unsubscribe target => r.callAndWait fun call => .unsubscribe call target
  | .shutdown => r.callAndWait .shutdown
  | .readState target => r.callAndWait fun call => .readState call target
  | .isSubscribed target => (r, .truth (r.manager.isSubscribed target))
  | .heldBy caller => (r, .number (r.manager.quota.heldBy caller))
  | .watches => (r, .watches r.watchReport)
  | .tick times => (r.passTicks times, .done)
  | .begin name request =>
      let (r, call) := r.beginCall fun call => .subscribe call request
      (({ r with named := (name, call) :: r.named } : Rehearsal).settle, .done)
  | .pass duration => (r.pass duration, .done)
  | .poll name => (r, ((r.named.lookup name).map r.outcomeOf).getD .pending)
  | .abandon name =>
      (((r.named.lookup name).map r.abandonCall).getD r |>.settle, .done)

/-- Do something and report what can be seen then. -/
def step (r : Rehearsal) (action : Action) : Rehearsal × Report :=
  let before := r.metrics
  let (r, outcome) := r.act action
  let (r, received) := if r.held then (r, []) else r.collect
  (r, { outcome := outcome
        received := received
        registered := r.manager.activeTargets
        inUse := r.manager.quota.inUse
        counted := before.changes r.metrics })

end Rehearsal
end ProvisionWatch

import ProvisionWatch.Manager.Basic

/-!
# The steps of the manager

Everything that happens to a manager happens in steps.  A call runs from one
point where it waits to the next; a worker reacts to one input; the collaborators
answer; the caller of a call gives it up.  In which order the steps come is not
decided here: a step that is not possible in a state has no result there.

Each step tells what occurred: what the collaborators were asked, what calls
returned, what became of updates, and how subscriptions opened and closed.

Main results:

- Theorem `work_cancelled`: a worker that was told to stop takes no input.
-/

namespace ProvisionWatch

/-! ## Occurrences -/

/-- What a collaborator can be asked. -/
inductive Question where
  | fetch (target : Target)
  | watch (target : Target)
  | watchEvents (ns : String)
  | listEvents (ns : String)
deriving DecidableEq, Repr

/-- What became of an update. -/
inductive Fate where
  | published
  | refused (error : SinkError)
  | coalesced
deriving DecidableEq, Repr

/-- Something that occurred in a step. -/
inductive Occurrence where
  | asked (question : Question)
  | returned (call : Nat) (result : CallResult)
  | opened (target : Target)
  | delivered (sink : Nat) (target : Target) (update : Update) (fate : Fate)
  | watchError (target : Target) (stream : StreamKind) (kind : WatchErrorKind)
  | stalled (target : Target)
  | closed (target : Target) (ending : Ending)

/-! ## Labels -/

/-- The steps there are. -/
inductive Label where
  | subscribe (call : Nat) (request : SubscribeRequest)
  | unsubscribe (call : Nat) (target : Target)
  | shutdown (call : Nat)
  | readState (call : Nat) (target : Target)
  /-- The answer to a fetch. -/
  | fetched (call : Nat) (answer : Except WatchError (Option Deployment))
  | watched (call : Nat) (answer : Except WatchError Unit)
  | eventsWatched (call : Nat) (answer : Except WatchError Unit)
  | listed (call : Nat) (answer : Except WatchError (List Event))
  /-- A waiting call looks again. -/
  | resume (call : Nat)
  /-- The caller gives a call up. -/
  | abandon (call : Nat)
  /-- An input arrives for the subscription to a target. -/
  | arrive (target : Target) (input : Input)
  /-- The worker of a target takes what waits for it. -/
  | work (target : Target)
  | setClock (now : Instant)
  | bind (sink : Nat)

/-- The call that a step is about. -/
def Label.call? : Label → Option Nat
  | subscribe call _ | unsubscribe call _ | shutdown call | readState call _
  | fetched call _ | watched call _ | eventsWatched call _ | listed call _
  | resume call | abandon call => some call
  | arrive _ _ | work _ | setClock _ | bind _ => none

namespace Manager

variable {σ : Type}

/-- The state after a step, and what occurred. -/
abbrev Stepped (σ : Type) := Manager σ × List Occurrence

/-! ## Handing over updates -/

/-- Let one effect of a session take place. -/
def perform (sinks : SinkInterface σ) (sink : Nat) (target : Target) (world : σ) :
    Effect → σ × Occurrence
  | .delivery (.offered u) =>
      match sinks.offer world sink target u with
      | (world, none) => (world, .delivered sink target u .published)
      | (world, some e) => (world, .delivered sink target u (.refused e))
  | .delivery (.coalesced u) => (world, .delivered sink target u .coalesced)
  | .watchError stream kind => (world, .watchError target stream kind)
  | .stall => (world, .stalled target)

/-- Let effects take place in order. -/
def performAll (sinks : SinkInterface σ) (sink : Nat) (target : Target) (world : σ) :
    List Effect → σ × List Occurrence
  | [] => (world, [])
  | e :: rest =>
      let (world, occurrence) := perform sinks sink target world e
      let (world, occurrences) := performAll sinks sink target world rest
      (world, occurrence :: occurrences)

/-! ## Calls to subscribe -/

/-- A call returns. -/
def answerCall (m : Manager σ) (call : Nat) (result : CallResult) (before : List Occurrence) :
    Stepped σ :=
  (m.dropCall call, before ++ [.returned call result])

/-- A setup fails: it leaves nothing behind. -/
def failSetup (m : Manager σ) (call : Nat) (setup : Setup) (result : CallResult) : Stepped σ :=
  (m.unregister setup.id setup.request.caller).answerCall call result []

/-- A call that returns is all that occurs then. -/
@[simp]
theorem occurred_answerCall (m : Manager σ) (call : Nat) (result : CallResult)
    (before : List Occurrence) :
    (m.answerCall call result before).2 = before ++ [.returned call result] :=
  rfl

/-- Of a setup that fails only the return of its call is seen. -/
@[simp]
theorem occurred_failSetup (m : Manager σ) (call : Nat) (setup : Setup) (result : CallResult) :
    (m.failSetup call setup result).2 = [.returned call result] :=
  rfl

/-- Look at the registry: wait for another setup, or begin one. -/
def attempt (m : Manager σ) (call : Nat) (request : SubscribeRequest) (sink : Nat) : Stepped σ :=
  match m.lookup? request.target with
  | some entry =>
      if m.announced.contains entry.id then
        m.answerCall call (.subscribed (.ok .alreadyActive)) []
      else
        (m.keepCall call (.waiting entry.id request sink), [])
  | none =>
      match m.quota.acquire request.caller with
      | .error e => m.answerCall call (.subscribed (.error (.capacity e))) []
      | .ok quota =>
          let setup : Setup :=
            { id := m.nextId, request := request, sink := sink, stage := .fetching,
              inbox := .empty }
          ((({ m with quota := quota } : Manager σ).register request.target).keepCall call
              (.settingUp setup),
            [.asked (.fetch request.target)])

/-- Why a call to subscribe is refused before it looks at the registry. -/
def refusal? (policy : Policy) (request : SubscribeRequest) : Option MonitorError :=
  match request.target.check with
  | some e => some (.request e)
  | none =>
      if request.timeout.any Duration.isZero then some (.request (.timeout "0"))
      else policy.allowList.authorize request.target.ns

/-- Begin a call to subscribe. -/
def beginSubscribe (policy : Policy) (m : Manager σ) (call : Nat) (request : SubscribeRequest) :
    Stepped σ :=
  match refusal? policy request with
  | some e => m.answerCall call (.subscribed (.error e)) []
  | none =>
      match m.bound with
      | none => m.answerCall call (.subscribed (.error .notBound)) []
      | some sink => m.attempt call request sink

/-- How long a subscription lasts and when its timer speaks up. -/
def timing (policy : Policy) (request : SubscribeRequest) : Timing :=
  { timeout := request.timeout.getD policy.config.defaultTimeout
    warningLead := policy.config.timeoutWarning
    stallThreshold := policy.config.stallThreshold }

/-- The subscription that a call asks for. -/
def newSubscription (policy : Policy) (request : SubscribeRequest) (now : Instant) :
    Subscription :=
  .start request.caller (.new request.target policy.rules policy.config.retention)
    (timing policy request) now

/-- The opening of the session that a call asks for.  Without room for its events there is none. -/
def openSession? (policy : Policy) (request : SubscribeRequest) (d : Deployment)
    (listed : List Event) (hearsEvents : Bool) (now : Instant) : Option Opening :=
  if policy.config.retention.fits then
    ((newSubscription policy request now).openWith d listed policy.config.eventSnapshotLimit
      hearsEvents now).toOption
  else none

/-- Finish a setup: publish what the session says at once and let its worker begin. -/
def finishSetup (policy : Policy) (sinks : SinkInterface σ) (m : Manager σ) (call : Nat)
    (setup : Setup) (d : Deployment) (hearsEvents : Bool) (listed : List Event) : Stepped σ :=
  let target := setup.request.target
  match openSession? policy setup.request d listed hearsEvents m.now with
  | none => m.failSetup call setup .brokeDown
  | some opening =>
      let (world, said) := performAll sinks setup.sink target m.sinks opening.effects
      let worker : Worker :=
        { id := setup.id
          caller := setup.request.caller
          target := target
          sink := setup.sink
          session := opening.session
          finished := opening.finished
          inbox := setup.inbox }
      ({ m with
          sinks := world
          announced := m.announced ++ [setup.id]
          workers := m.workers ++ [worker] }).answerCall call (.subscribed (.ok .started))
        (said ++ [Occurrence.opened target])

/-! ## Workers -/

/-- A worker ends: its slot and its entry go with it. -/
def endWorker (m : Manager σ) (w : Worker) (ending : Ending) (before : List Occurrence) :
    Stepped σ :=
  ({ m.unregister w.id w.caller with workers := m.workers.filter fun v => v.id != w.id },
    before ++ [.closed w.target ending])

/-- A worker turns to a signal. -/
def workOn (sinks : SinkInterface σ) (m : Manager σ) (w : Worker) (signal : Signal)
    (inbox : Inbox) : Stepped σ :=
  let reaction := w.session.take m.now signal
  let (world, said) := performAll sinks w.sink w.target m.sinks reaction.effects
  let m := { m with sinks := world }
  match reaction.ending with
  | some ending => m.endWorker w ending said
  | none => (m.updateWorker { w with session := reaction.session, inbox := inbox }, said)

/-- A worker takes what waits for it.  One that is finished ends; with no time between ticks it
breaks down. -/
def work (policy : Policy) (sinks : SinkInterface σ) (m : Manager σ) (w : Worker) :
    Option (Stepped σ) :=
  if w.finished then
    some (m.endWorker w .terminal [])
  else if policy.config.tickInterval.isZero then
    some (m.endWorker w .aborted [])
  else
    match w.inbox.next? (m.isCancelled w.id) w.session.hearsEvents with
    | none => none
    | some (signal, inbox) => some (workOn sinks m w signal inbox)

/-! ## Arrivals -/

/-- Whether the stream an input comes from is open. -/
def Stage.isOpenFor : Stage → Input → Bool
  | .fetching, _ | .watching _, _ => false
  | .watchingEvents _, .resource _ => true
  | .watchingEvents _, _ => false
  | .listing _ _, .resource _ => true
  | .listing _ hearsEvents, .event _ => hearsEvents
  | .listing _ _, .tick => false

/-- The call that sets up the subscription to a target. -/
def setup? (m : Manager σ) (target : Target) : Option (Nat × Setup) :=
  m.calls.findSome? fun
    | (call, .settingUp setup) =>
        if setup.request.target = target then some (call, setup) else none
    | _ => none

/-- An input arrives for the subscription to a target. -/
def arrive (m : Manager σ) (target : Target) (input : Input) : Option (Manager σ) :=
  match m.worker? target with
  | some w => some (m.updateWorker { w with inbox := w.inbox.add input })
  | none =>
      match m.setup? target with
      | some (call, setup) =>
          if Stage.isOpenFor setup.stage input then
            some (m.keepCall call (.settingUp { setup with inbox := setup.inbox.add input }))
          else none
      | none => none

/-! ## The other calls -/

/-- Begin a call to stop the entries that satisfy a test. -/
def beginStop (m : Manager σ) (call : Nat) (test : Entry → Bool) : Stepped σ :=
  let ids := (m.registry.filter test).map Entry.id
  if ids.isEmpty then m.answerCall call .stopped []
  else ((m.cancelWhere test).keepCall call (.stopping ids), [])

/-- Begin a call to read the state of a target. -/
def beginRead (policy : Policy) (m : Manager σ) (call : Nat) (target : Target) : Stepped σ :=
  match target.check with
  | some e => m.answerCall call (.state (.error (.request e))) []
  | none =>
      match policy.allowList.authorize target.ns with
      | some e => m.answerCall call (.state (.error e)) []
      | none => (m.keepCall call (.reading target), [.asked (.fetch target)])

/-- The state of a target that was fetched. -/
def readResult (target : Target) (now : Instant) :
    Except WatchError (Option Deployment) → Except MonitorError Update
  | .error e => .error (.watch e)
  | .ok none => .error (.notFound target)
  | .ok (some d) => .ok (.ofSnapshot d.snapshot [] now)

/-- A waiting call looks again. -/
def resume (m : Manager σ) (call : Nat) : PendingCall → Option (Stepped σ)
  | .waiting entry request sink =>
      if m.announced.contains entry then
        some (m.answerCall call (.subscribed (.ok .alreadyActive)) [])
      else if m.isRegistered entry then
        none
      else
        some (m.attempt call request sink)
  | .stopping entries =>
      if entries.all m.done.contains then some (m.answerCall call .stopped []) else none
  | _ => none

/-- A call is given up. -/
def abandon (m : Manager σ) (call : Nat) : PendingCall → Manager σ
  | .settingUp setup => (m.unregister setup.id setup.request.caller).dropCall call
  | _ => m.dropCall call

/-! ## Steps -/

/-- A setup goes on to another stage. -/
def advance (m : Manager σ) (call : Nat) (setup : Setup) (stage : Stage) (question : Question) :
    Stepped σ :=
  (m.keepCall call (.settingUp { setup with stage := stage }), [.asked question])

/-- The answer to a fetch, for a call that waits for it. -/
def takeFetched (m : Manager σ) (call : Nat) (answer : Except WatchError (Option Deployment)) :
    PendingCall → Option (Stepped σ)
  | .reading target => some (m.answerCall call (.state (readResult target m.now answer)) [])
  | .settingUp setup =>
      match setup.stage, answer with
      | .fetching, .error e =>
          some (m.failSetup call setup (.subscribed (.error (.watch e))))
      | .fetching, .ok none =>
          some (m.failSetup call setup (.subscribed (.error (.notFound setup.request.target))))
      | .fetching, .ok (some d) =>
          some (m.advance call setup (.watching d) (.watch setup.request.target))
      | _, _ => none
  | _ => none

/-- The answer to the opening of a watch. -/
def takeWatched (m : Manager σ) (call : Nat) (answer : Except WatchError Unit) :
    PendingCall → Option (Stepped σ)
  | .settingUp setup =>
      match setup.stage, answer with
      | .watching _, .error e => some (m.failSetup call setup (.subscribed (.error (.watch e))))
      | .watching d, .ok () =>
          some (m.advance call setup (.watchingEvents d)
            (.watchEvents setup.request.target.ns))
      | _, _ => none
  | _ => none

/-- The answer to the opening of a stream of events; without one the setup goes on. -/
def takeEventsWatched (m : Manager σ) (call : Nat) (answer : Except WatchError Unit) :
    PendingCall → Option (Stepped σ)
  | .settingUp setup =>
      match setup.stage with
      | .watchingEvents d =>
          some (m.advance call setup (.listing d answer.toOption.isSome)
            (.listEvents setup.request.target.ns))
      | _ => none
  | _ => none

/-- The answer to the listing of events; without one none are listed. -/
def takeListed (policy : Policy) (sinks : SinkInterface σ) (m : Manager σ) (call : Nat)
    (answer : Except WatchError (List Event)) : PendingCall → Option (Stepped σ)
  | .settingUp setup =>
      match setup.stage with
      | .listing d hearsEvents =>
          some (m.finishSetup policy sinks call setup d hearsEvents (answer.toOption.getD []))
      | _ => none
  | _ => none

/-- A new call has to have a number of its own. -/
def ifFresh (m : Manager σ) (call : Nat) (result : Stepped σ) : Option (Stepped σ) :=
  if (m.call? call).isSome then none else some result

/-- One step, if it is possible. -/
def step (policy : Policy) (sinks : SinkInterface σ) (m : Manager σ) :
    Label → Option (Stepped σ)
  | .subscribe call request => m.ifFresh call (m.beginSubscribe policy call request)
  | .unsubscribe call target => m.ifFresh call (m.beginStop call fun e => e.target == target)
  | .shutdown call => m.ifFresh call (m.beginStop call fun _ => true)
  | .readState call target => m.ifFresh call (m.beginRead policy call target)
  | .fetched call answer => (m.call? call).bind (m.takeFetched call answer)
  | .watched call answer => (m.call? call).bind (m.takeWatched call answer)
  | .eventsWatched call answer => (m.call? call).bind (m.takeEventsWatched call answer)
  | .listed call answer => (m.call? call).bind (m.takeListed policy sinks call answer)
  | .resume call => (m.call? call).bind (m.resume call)
  | .abandon call => (m.call? call).map fun p => (m.abandon call p, [])
  | .arrive target input => (m.arrive target input).map fun m => (m, [])
  | .work target => (m.worker? target).bind (m.work policy sinks)
  | .setClock now => some ({ m with now := now }, [])
  | .bind sink => some ({ m with bound := some sink }, [])

/-- Several steps in order, and all that occurred. -/
def run (policy : Policy) (sinks : SinkInterface σ) (m : Manager σ) :
    List Label → Option (Stepped σ)
  | [] => some (m, [])
  | label :: rest =>
      match m.step policy sinks label with
      | none => none
      | some (m, occurred) =>
          (m.run policy sinks rest).map fun (m, later) => (m, occurred ++ later)

/-- A worker that was told to stop ends, whatever waits for it. -/
theorem work_cancelled (policy : Policy) (sinks : SinkInterface σ) (m : Manager σ) (w : Worker)
    (hf : w.finished = false) (ht : policy.config.tickInterval.isZero = false)
    (h : m.isCancelled w.id = true) :
    m.work policy sinks w = some (m.endWorker w .cancelled []) := by
  simp [work, hf, ht, h, Inbox.next?, workOn, Session.take, performAll]

end Manager
end ProvisionWatch

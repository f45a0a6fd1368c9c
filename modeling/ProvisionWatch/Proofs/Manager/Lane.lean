import ProvisionWatch.Proofs.Manager.Attribution

/-!
# One target by itself

A manager that knows a single target needs no registry, no numbers of entries
and no quota: it has a subscription or none, the calls about it, and a worker or
none.  This is the lane of the target.  It takes the steps that concern its
target, as a manager does that knows no other one and never runs out of slots.

What a manager of many targets has to do with one of them is the lane of that
target: it is read off the state of the manager.

Main results:

- Theorems `lane_keepCall` and `lane_keepCall_of_not_mem`: a call is kept in the
  lane of its target and in no other.
- Theorem `call?_lane`: a call about a target is found in its lane.
-/

namespace ProvisionWatch

/-! ## Lanes -/

/-- A setup apart from the number of its entry. -/
def Setup.unnumbered (s : Setup) : Setup :=
  { s with id := 0 }

/-- A worker apart from the number of its entry. -/
def Worker.unnumbered (w : Worker) : Worker :=
  { w with id := 0 }

/-- The entry of a target apart from its number. -/
structure LaneEntry where
  cancelled : Bool
  /-- Its setup came to its first update. -/
  announced : Bool

/-- What has become of an entry that a call waits for. -/
structure Standing where
  announced : Bool
  registered : Bool

/-- A call about a target that has not returned. -/
inductive LaneCall where
  | waiting (entry : Standing) (request : SubscribeRequest) (sink : Nat)
  | settingUp (setup : Setup)
  | stopping (registered : Bool)
  | reading (target : Target)

namespace LaneCall

/-- The entry that a call waits for is gone. -/
def vacated : LaneCall → LaneCall
  | waiting entry request sink => waiting { entry with registered := false } request sink
  | stopping _ => stopping false
  | settingUp setup => settingUp setup
  | reading target => reading target

/-- The setup came to its first update. -/
def announced : LaneCall → LaneCall
  | waiting entry request sink =>
      waiting { entry with announced := entry.announced || entry.registered } request sink
  | settingUp setup => settingUp setup
  | stopping registered => stopping registered
  | reading target => reading target

end LaneCall

/-- All that a manager has to do with one target. -/
@[ext]
structure Lane where
  now : Instant
  bound : Option Nat
  entry : Option LaneEntry
  calls : List (Nat × LaneCall)
  worker : Option Worker

namespace Lane

/-- The state of a lane after a step, and what occurred. -/
abbrev Stepped := Lane × List Occurrence

def call? (l : Lane) (call : Nat) : Option LaneCall :=
  l.calls.lookup call

def keepCall (l : Lane) (call : Nat) (p : LaneCall) : Lane :=
  { l with calls := l.calls.filter (fun c => c.1 != call) ++ [(call, p)] }

def dropCall (l : Lane) (call : Nat) : Lane :=
  { l with calls := l.calls.filter fun c => c.1 != call }

/-- Change what is kept for calls. -/
def mapCalls (l : Lane) (f : LaneCall → LaneCall) : Lane :=
  { l with calls := l.calls.map fun c => (c.1, f c.2) }

/-- Register the target. -/
def occupy (l : Lane) : Lane :=
  { l with entry := some { cancelled := false, announced := false } }

/-- Remove the entry. -/
def vacate (l : Lane) : Lane :=
  { l.mapCalls LaneCall.vacated with entry := none }

/-- The setup comes to its first update. -/
def announce (l : Lane) : Lane :=
  { l.mapCalls LaneCall.announced with
    entry := l.entry.map fun e => { e with announced := true } }

/-- Tell the subscription to stop. -/
def cancel (l : Lane) : Lane :=
  { l with entry := l.entry.map fun e => { e with cancelled := true } }

/-! ## Steps of a lane -/

/-- A call returns. -/
def answerCall (l : Lane) (call : Nat) (result : CallResult) (before : List Occurrence) :
    Stepped :=
  (l.dropCall call, before ++ [.returned call result])

/-- A setup fails: it leaves nothing behind. -/
def failSetup (l : Lane) (call : Nat) (result : CallResult) : Stepped :=
  l.vacate.answerCall call result []

/-- Wait for another setup, or begin one. -/
def attempt (l : Lane) (call : Nat) (request : SubscribeRequest) (sink : Nat) : Stepped :=
  match l.entry with
  | some entry =>
      if entry.announced then l.answerCall call (.subscribed (.ok .alreadyActive)) []
      else
        (l.keepCall call (.waiting { announced := false, registered := true } request sink), [])
  | none =>
      (l.occupy.keepCall call
        (.settingUp { id := 0, request := request, sink := sink, stage := .fetching,
                      inbox := .empty }), [])

/-- Begin a call to subscribe. -/
def beginSubscribe (policy : Policy) (l : Lane) (call : Nat) (request : SubscribeRequest) :
    Stepped :=
  match Manager.refusal? policy request with
  | some e => l.answerCall call (.subscribed (.error e)) []
  | none =>
      match l.bound with
      | none => l.answerCall call (.subscribed (.error .notBound)) []
      | some sink => l.attempt call request sink

/-- Begin a call to stop the subscription. -/
def beginStop (l : Lane) (call : Nat) : Stepped :=
  match l.entry with
  | none => l.answerCall call .stopped []
  | some _ => (l.cancel.keepCall call (.stopping true), [])

/-- Begin a call to read the state of the target. -/
def beginRead (policy : Policy) (l : Lane) (call : Nat) (target : Target) : Stepped :=
  match target.check with
  | some e => l.answerCall call (.state (.error (.request e))) []
  | none =>
      match policy.allowList.authorize target.ns with
      | some e => l.answerCall call (.state (.error e)) []
      | none => (l.keepCall call (.reading target), [])

/-- A setup goes on to another stage. -/
def advance (l : Lane) (call : Nat) (setup : Setup) (stage : Stage) : Stepped :=
  (l.keepCall call (.settingUp { setup with stage := stage }), [])

/-- The answer to a fetch. -/
def takeFetched (l : Lane) (call : Nat) (answer : Except WatchError (Option Deployment)) :
    LaneCall → Option Stepped
  | .reading target =>
      some (l.answerCall call (.state (Manager.readResult target l.now answer)) [])
  | .settingUp setup =>
      match setup.stage, answer with
      | .fetching, .error e => some (l.failSetup call (.subscribed (.error (.watch e))))
      | .fetching, .ok none =>
          some (l.failSetup call (.subscribed (.error (.notFound setup.request.target))))
      | .fetching, .ok (some d) => some (l.advance call setup (.watching d))
      | _, _ => none
  | _ => none

/-- The answer to the opening of a watch. -/
def takeWatched (l : Lane) (call : Nat) (answer : Except WatchError Unit) :
    LaneCall → Option Stepped
  | .settingUp setup =>
      match setup.stage, answer with
      | .watching _, .error e => some (l.failSetup call (.subscribed (.error (.watch e))))
      | .watching d, .ok () => some (l.advance call setup (.watchingEvents d))
      | _, _ => none
  | _ => none

/-- The answer to the opening of a stream of events. -/
def takeEventsWatched (l : Lane) (call : Nat) (answer : Except WatchError Unit) :
    LaneCall → Option Stepped
  | .settingUp setup =>
      match setup.stage with
      | .watchingEvents d => some (l.advance call setup (.listing d answer.toOption.isSome))
      | _ => none
  | _ => none

/-- Finish a setup: publish what the session says at once and let its worker begin. -/
def finishSetup (policy : Policy) (l : Lane) (call : Nat) (setup : Setup) (d : Deployment)
    (hearsEvents : Bool) (listed : List Event) : Stepped :=
  match Manager.openSession? policy setup.request d listed hearsEvents l.now with
  | none => l.failSetup call .brokeDown
  | some opening =>
      ({ l.announce with worker := some (setup.worker opening) } : Lane).answerCall call
        (.subscribed (.ok .started))
        ((Manager.performAll .accepting setup.sink setup.request.target () opening.effects).2 ++
          [.opened setup.request.target])

/-- The answer to the listing of events. -/
def takeListed (policy : Policy) (l : Lane) (call : Nat) (answer : Except WatchError (List Event)) :
    LaneCall → Option Stepped
  | .settingUp setup =>
      match setup.stage with
      | .listing d hearsEvents =>
          some (l.finishSetup policy call setup d hearsEvents (answer.toOption.getD []))
      | _ => none
  | _ => none

/-- A waiting call looks again. -/
def resume (l : Lane) (call : Nat) : LaneCall → Option Stepped
  | .waiting entry request sink =>
      if entry.announced then some (l.answerCall call (.subscribed (.ok .alreadyActive)) [])
      else if entry.registered then none
      else some (l.attempt call request sink)
  | .stopping registered => if registered then none else some (l.answerCall call .stopped [])
  | _ => none

/-- A call is given up. -/
def abandon (l : Lane) (call : Nat) : LaneCall → Lane
  | .settingUp _ => l.vacate.dropCall call
  | _ => l.dropCall call

/-- The call that sets the subscription up. -/
def setup? (l : Lane) : Option (Nat × Setup) :=
  l.calls.findSome? fun
    | (call, .settingUp setup) => some (call, setup)
    | _ => none

/-- An input arrives. -/
def arrive (l : Lane) (input : Input) : Option Lane :=
  match l.worker with
  | some w => some { l with worker := some { w with inbox := w.inbox.add input } }
  | none =>
      match l.setup? with
      | some (call, setup) =>
          if Manager.Stage.isOpenFor setup.stage input then
            some (l.keepCall call (.settingUp { setup with inbox := setup.inbox.add input }))
          else none
      | none => none

/-- The worker ends, and the entry goes with it. -/
def endWorker (l : Lane) (w : Worker) (ending : Ending) (before : List Occurrence) : Stepped :=
  ({ l.vacate with worker := none }, before ++ [.closed w.target ending])

/-- The worker turns to a signal. -/
def workOn (l : Lane) (w : Worker) (signal : Signal) (inbox : Inbox) : Stepped :=
  let reaction := w.session.take l.now signal
  let said := (Manager.performAll .accepting w.sink w.target () reaction.effects).2
  match reaction.ending with
  | some ending => l.endWorker w ending said
  | none => ({ l with worker := some { w with session := reaction.session, inbox := inbox } }, said)

/-- The worker takes what waits for it. -/
def work (policy : Policy) (l : Lane) (w : Worker) : Option Stepped :=
  if w.finished then some (l.endWorker w .terminal [])
  else if policy.config.tickInterval.isZero then some (l.endWorker w .aborted [])
  else
    match w.inbox.next? (l.entry.any LaneEntry.cancelled) w.session.hearsEvents with
    | none => none
    | some (signal, inbox) => some (l.workOn w signal inbox)

/-- One step, if it is possible.  A call to stop everything tells the subscription so, and waits
elsewhere. -/
def step (policy : Policy) (l : Lane) : Label → Option Stepped
  | .subscribe call request => some (l.beginSubscribe policy call request)
  | .unsubscribe call _ => some (l.beginStop call)
  | .shutdown _ => some (l.cancel, [])
  | .readState call target => some (l.beginRead policy call target)
  | .fetched call answer => (l.call? call).bind (l.takeFetched call answer)
  | .watched call answer => (l.call? call).bind (l.takeWatched call answer)
  | .eventsWatched call answer => (l.call? call).bind (l.takeEventsWatched call answer)
  | .listed call answer => (l.call? call).bind (l.takeListed policy call answer)
  | .resume call => (l.call? call).bind (l.resume call)
  | .abandon call => (l.call? call).map fun p => (l.abandon call p, [])
  | .arrive _ input => (l.arrive input).map fun l => (l, [])
  | .work _ => l.worker.bind (l.work policy)
  | .setClock now => some ({ l with now := now }, [])
  | .bind sink => some ({ l with bound := some sink }, [])

end Lane

/-! ## The lane of a target -/

/-- Whether an occurrence is one for a target, where `calls` are those about it.  Questions are
left aside: the event streams are asked for by namespace. -/
def Occurrence.concerns (target : Target) (calls : List Nat) : Occurrence → Bool
  | asked _ => false
  | returned call _ => calls.contains call
  | opened place | delivered _ place _ _ | watchError place _ _ | stalled place | closed place _ =>
      place == target

namespace Manager

variable {σ : Type}

/-- What a pending call is about, apart from the numbers of entries. -/
def laneCall (m : Manager σ) : PendingCall → LaneCall
  | .waiting entry request sink =>
      .waiting { announced := m.announced.contains entry, registered := m.isRegistered entry }
        request sink
  | .settingUp setup => .settingUp setup.unnumbered
  | .stopping entries => .stopping (entries.any m.isRegistered)
  | .reading target => .reading target

/-- The pending calls among some. -/
def callsAmong (m : Manager σ) (calls : List Nat) : List (Nat × PendingCall) :=
  m.calls.filter fun c => calls.contains c.1

/-- The lane of a target, where `calls` are the calls about it. -/
def lane (m : Manager σ) (target : Target) (calls : List Nat) : Lane where
  now := m.now
  bound := m.bound
  entry := (m.lookup? target).map fun e =>
    { cancelled := e.cancelled, announced := m.announced.contains e.id }
  calls := (m.callsAmong calls).map fun c => (c.1, m.laneCall c.2)
  worker := (m.worker? target).map Worker.unnumbered

/-- The lane of a target after a step, and what occurred for it. -/
def Stepped.lane (target : Target) (calls : List Nat) (r : Stepped σ) : Lane.Stepped :=
  (r.1.lane target calls, r.2.filter (Occurrence.concerns target calls))

variable {target : Target} {calls : List Nat} {m : Manager σ} {call : Nat}

/-! ## What is found in a lane -/

theorem entry_lane_of_free (h : m.lookup? target = none) :
    (m.lane target calls).entry = none := by
  rw [lane, h]
  rfl

theorem entry_lane {e : Entry} (h : m.lookup? target = some e) :
    (m.lane target calls).entry =
      some { cancelled := e.cancelled, announced := m.announced.contains e.id } := by
  rw [lane, h]
  rfl

@[simp]
theorem worker_lane (m : Manager σ) (target : Target) (calls : List Nat) :
    (m.lane target calls).worker = (m.worker? target).map Worker.unnumbered :=
  rfl

/-! ## Calls that are kept -/

theorem callsAmong_keepCall (m : Manager σ) (hmem : call ∈ calls) (p : PendingCall) :
    (m.keepCall call p).callsAmong calls =
      ((m.callsAmong calls).filter fun c => c.1 != call) ++ [(call, p)] := by
  rw [callsAmong, keepCall, List.filter_append, List.filter_comm]
  simp [callsAmong, hmem]

@[simp]
theorem callsAmong_dropCall (m : Manager σ) (call : Nat) :
    (m.dropCall call).callsAmong calls = (m.callsAmong calls).filter fun c => c.1 != call := by
  rw [callsAmong, dropCall, List.filter_comm]
  rfl

/-- A call that is not among some does not matter to them. -/
theorem callsAmong_dropCall_of_not_mem (m : Manager σ) (hother : call ∉ calls) :
    (m.dropCall call).callsAmong calls = m.callsAmong calls := by
  rw [callsAmong_dropCall]
  refine List.filter_eq_self.mpr fun c hc => ?_
  have hmem : c.1 ∈ calls := List.contains_iff_mem.mp (List.mem_filter.mp hc).2
  rw [bne_iff_ne]
  intro heq
  exact hother (heq ▸ hmem)

theorem callsAmong_keepCall_of_not_mem (m : Manager σ) (hother : call ∉ calls) (p : PendingCall) :
    (m.keepCall call p).callsAmong calls = m.callsAmong calls := by
  have hnone : ([(call, p)].filter fun c => calls.contains c.1) = [] := by simp [hother]
  rw [callsAmong, keepCall, List.filter_append, hnone, List.append_nil]
  exact m.callsAmong_dropCall_of_not_mem hother

/-- The lane keeps a call about its target. -/
theorem lane_keepCall (m : Manager σ) (hmem : call ∈ calls) (p : PendingCall) :
    (m.keepCall call p).lane target calls =
      (m.lane target calls).keepCall call (m.laneCall p) := by
  refine Lane.ext rfl rfl rfl ?_ rfl
  rw [Lane.keepCall, lane, lane, callsAmong_keepCall m hmem, List.map_append, List.filter_map]
  rfl

/-- The lane forgets a call. -/
@[simp]
theorem lane_dropCall (m : Manager σ) (call : Nat) :
    (m.dropCall call).lane target calls = (m.lane target calls).dropCall call := by
  refine Lane.ext rfl rfl rfl ?_ rfl
  rw [Lane.dropCall, lane, lane, callsAmong_dropCall, List.filter_map]
  rfl

/-- Another call is kept elsewhere. -/
theorem lane_keepCall_of_not_mem (m : Manager σ) (hother : call ∉ calls) (p : PendingCall) :
    (m.keepCall call p).lane target calls = m.lane target calls := by
  refine Lane.ext rfl rfl rfl ?_ rfl
  rw [lane, lane, callsAmong_keepCall_of_not_mem m hother]
  rfl

theorem lane_dropCall_of_not_mem (m : Manager σ) (hother : call ∉ calls) :
    (m.dropCall call).lane target calls = m.lane target calls := by
  refine Lane.ext rfl rfl rfl ?_ rfl
  rw [lane, lane, callsAmong_dropCall_of_not_mem m hother]
  rfl

/-- What is kept for a key among others is found there. -/
theorem lookup_filter_map {β γ : Type} (f : β → γ) {test : Nat → Bool} {key : Nat}
    (h : test key = true) (pairs : List (Nat × β)) :
    ((pairs.filter fun c => test c.1).map fun c => (c.1, f c.2)).lookup key =
      (pairs.lookup key).map f := by
  induction pairs with
  | nil => rfl
  | cons c rest ih =>
      obtain ⟨k, b⟩ := c
      by_cases hk : key = k
      · subst hk
        simp [h]
      · have hne : (key == k) = false := by simpa using hk
        rw [List.filter_cons, List.lookup_cons, hne]
        dsimp only
        split
        · rw [List.map_cons, List.lookup_cons, hne]
          exact ih
        · exact ih

theorem call?_lane (m : Manager σ) (hmem : call ∈ calls) :
    (m.lane target calls).call? call = (m.call? call).map m.laneCall :=
  lookup_filter_map m.laneCall (List.contains_iff_mem.mpr hmem) m.calls

end Manager
end ProvisionWatch

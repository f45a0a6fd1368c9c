import ProvisionWatch.Proofs.Manager.Slots

/-!
# How steps come about

A step is taken by one call, by one worker, or by neither: an input arrives, the
clock moves, another sink is bound.  Each step is told here by who takes it, what
he finds, and what state he leaves.  Whatever holds of all steps is then read off
these cases.

Main results:

- Theorem `step_acts`: every step comes about in one of the ways listed here.
- Theorem `Looks.step_eq`: a call that may look at the registry does so in its
  step.
-/

namespace ProvisionWatch

/-- A call to stop the entries that satisfy a test begins. -/
inductive Label.Stops : Label → Nat → (Entry → Bool) → Prop where
  | unsubscribe (call : Nat) (target : Target) :
      Stops (.unsubscribe call target) call fun e => e.target == target
  | shutdown (call : Nat) : Stops (.shutdown call) call fun _ => true

/-- A call was asked or answered: nothing that an observer of updates sees. -/
def Occurrence.isAside : Occurrence → Bool
  | asked _ | returned _ _ => true
  | opened _ | delivered _ _ _ _ | watchError _ _ _ | stalled _ | closed _ _ => false

/-- The worker that a setup leaves. -/
def Setup.worker (setup : Setup) (opening : Opening) : Worker :=
  { id := setup.id
    caller := setup.request.caller
    target := setup.request.target
    sink := setup.sink
    session := opening.session
    finished := opening.finished
    inbox := setup.inbox }

namespace Manager

variable {σ : Type} {policy : Policy} {sinks : SinkInterface σ}

/-! ## What a step finds -/

/-- A call to subscribe looks at the registry: it is new and passes the checks that come before, or
the setup it waited for is gone without having come to its first update. -/
inductive Looks (policy : Policy) (m : Manager σ) :
    Label → Nat → SubscribeRequest → Nat → Prop where
  | anew {call : Nat} {request : SubscribeRequest} {sink : Nat} (fresh : m.call? call = none)
      (passes : refusal? policy request = none) (bound : m.bound = some sink) :
      Looks policy m (.subscribe call request) call request sink
  | again {call entry : Nat} {request : SubscribeRequest} {sink : Nat}
      (waiting : m.call? call = some (.waiting entry request sink))
      (unannounced : entry ∉ m.announced) (gone : m.isRegistered entry = false) :
      Looks policy m (.resume call) call request sink

/-- A call returns that holds no setup. -/
inductive Returns (policy : Policy) (m : Manager σ) : Label → Nat → CallResult → Prop where
  | refused {call : Nat} {request : SubscribeRequest} {e : MonitorError}
      (fresh : m.call? call = none) (refuses : refusal? policy request = some e) :
      Returns policy m (.subscribe call request) call (.subscribed (.error e))
  | unbound {call : Nat} {request : SubscribeRequest} (fresh : m.call? call = none)
      (passes : refusal? policy request = none) (unbound : m.bound = none) :
      Returns policy m (.subscribe call request) call (.subscribed (.error .notBound))
  | active {label : Label} {call : Nat} {request : SubscribeRequest} {sink : Nat} {entry : Entry}
      (looks : Looks policy m label call request sink)
      (found : m.lookup? request.target = some entry) (announced : entry.id ∈ m.announced) :
      Returns policy m label call (.subscribed (.ok .alreadyActive))
  | noRoom {label : Label} {call : Nat} {request : SubscribeRequest} {sink : Nat}
      {e : CapacityError} (looks : Looks policy m label call request sink)
      (free : m.lookup? request.target = none) (full : m.quota.acquire request.caller = .error e) :
      Returns policy m label call (.subscribed (.error (.capacity e)))
  | announced {call entry : Nat} {request : SubscribeRequest} {sink : Nat}
      (waiting : m.call? call = some (.waiting entry request sink))
      (announced : entry ∈ m.announced) :
      Returns policy m (.resume call) call (.subscribed (.ok .alreadyActive))
  | stopped {call : Nat} {entries : List Nat} (stopping : m.call? call = some (.stopping entries))
      (done : ∀ id ∈ entries, id ∈ m.done) :
      Returns policy m (.resume call) call .stopped
  | nothingToStop {label : Label} {call : Nat} {test : Entry → Bool}
      (stops : label.Stops call test) (fresh : m.call? call = none)
      (nothing : ∀ e ∈ m.registry, test e = false) : Returns policy m label call .stopped
  | unreadable {call : Nat} {target : Target} {e : MonitorError} (fresh : m.call? call = none) :
      Returns policy m (.readState call target) call (.state (.error e))
  | read {call : Nat} {target : Target} {answer : Except WatchError (Option Deployment)}
      (reading : m.call? call = some (.reading target)) :
      Returns policy m (.fetched call answer) call (.state (readResult target m.now answer))

/-- A setup fails. -/
inductive Fails (policy : Policy) (m : Manager σ) (call : Nat) (setup : Setup) :
    Label → CallResult → Prop where
  | fetch (e : WatchError) (fetching : setup.stage = .fetching) :
      Fails policy m call setup (.fetched call (.error e)) (.subscribed (.error (.watch e)))
  | missing (fetching : setup.stage = .fetching) :
      Fails policy m call setup (.fetched call (.ok none))
        (.subscribed (.error (.notFound setup.request.target)))
  | watch (d : Deployment) (e : WatchError) (watching : setup.stage = .watching d) :
      Fails policy m call setup (.watched call (.error e)) (.subscribed (.error (.watch e)))
  | brokeDown (d : Deployment) (hearsEvents : Bool) (answer : Except WatchError (List Event))
      (listing : setup.stage = .listing d hearsEvents)
      (noSession : openSession? policy setup.request d (answer.toOption.getD []) hearsEvents m.now =
        none) : Fails policy m call setup (.listed call answer) .brokeDown

/-- A setup goes on to another stage and asks for something. -/
inductive Advances (call : Nat) (setup : Setup) : Label → Stage → Question → Prop where
  | found (d : Deployment) (fetching : setup.stage = .fetching) :
      Advances call setup (.fetched call (.ok (some d))) (.watching d) (.watch setup.request.target)
  | watched (d : Deployment) (watching : setup.stage = .watching d) :
      Advances call setup (.watched call (.ok ())) (.watchingEvents d)
        (.watchEvents setup.request.target.ns)
  | eventsWatched (d : Deployment) (answer : Except WatchError Unit)
      (watchingEvents : setup.stage = .watchingEvents d) :
      Advances call setup (.eventsWatched call answer) (.listing d answer.toOption.isSome)
        (.listEvents setup.request.target.ns)

/-- How a worker comes to its end, and what it says last. -/
inductive Ends (policy : Policy) (sinks : SinkInterface σ) (m : Manager σ) (w : Worker) :
    Ending → List Occurrence → Prop where
  /-- All was said before it could stream. -/
  | finished (h : w.finished = true) : Ends policy sinks m w .terminal []
  /-- There is no time between ticks. -/
  | brokeDown (h : w.finished = false) (htick : policy.config.tickInterval.isZero = true) :
      Ends policy sinks m w .aborted []
  /-- It turned to a signal. -/
  | turned (h : w.finished = false) (htick : policy.config.tickInterval.isZero = false)
      (signal : Signal) (ending : Ending)
      (hending : (w.session.take m.now signal).ending = some ending) :
      Ends policy sinks m w ending
        (performAll sinks w.sink w.target m.sinks (w.session.take m.now signal).effects).2

/-- A session opens if there is room for its events and its subscription can take in those that are
listed. -/
theorem openSession?_eq_some_iff {request : SubscribeRequest}
    {d : Deployment} {listed : List Event} {hearsEvents : Bool} {now : Instant} {o : Opening} :
    openSession? policy request d listed hearsEvents now = some o ↔
      policy.config.retention.fits = true ∧
        (newSubscription policy request now).openWith d listed policy.config.eventSnapshotLimit
          hearsEvents now = .ok o := by
  unfold openSession?
  split
  · rename_i hfits
    cases (newSubscription policy request now).openWith d listed
      policy.config.eventSnapshotLimit hearsEvents now with
    | error fault => simp [Except.toOption]
    | ok opening => simp [Except.toOption, hfits]
  · rename_i hfits
    simp [hfits]

/-- A setup that waits for its listing is finished once that is there. -/
theorem step_listed {m : Manager σ} {call : Nat} {setup : Setup} {d : Deployment}
    {hearsEvents : Bool} (hpending : m.call? call = some (.settingUp setup))
    (hstage : setup.stage = .listing d hearsEvents) (answer : Except WatchError (List Event)) :
    m.step policy sinks (.listed call answer) =
      some (m.finishSetup policy sinks call setup d hearsEvents (answer.toOption.getD [])) := by
  simp only [step, hpending, Option.bind_some, takeListed, hstage]

/-! ## Steps -/

/-- A call that looked at the registry and found room begins a setup. -/
def beginSetup (m : Manager σ) (call : Nat) (request : SubscribeRequest) (sink : Nat)
    (quota : Quota) : Manager σ :=
  (({ m with quota := quota } : Manager σ).register request.target).keepCall call
    (.settingUp
      { id := m.nextId, request := request, sink := sink, stage := .fetching, inbox := .empty })

/-- A setup comes to its first update and leaves a worker. -/
def startWorker (m : Manager σ) (call : Nat) (setup : Setup) (opening : Opening) (world : σ) :
    Manager σ :=
  ({ m with
      sinks := world
      announced := m.announced ++ [setup.id]
      workers := m.workers ++ [setup.worker opening] } : Manager σ).dropCall call

/-- How a step comes about, and what state it leaves. -/
inductive Act (policy : Policy) (sinks : SinkInterface σ) (m : Manager σ) :
    Label → Stepped σ → Prop where
  | returns {label : Label} {call : Nat} {result : CallResult}
      (returns : Returns policy m label call result) :
      Act policy sinks m label (m.answerCall call result [])
  /-- A call waits for the setup of another one. -/
  | waits {label : Label} {call : Nat} {request : SubscribeRequest} {sink : Nat} {entry : Entry}
      (looks : Looks policy m label call request sink)
      (found : m.lookup? request.target = some entry) (unannounced : entry.id ∉ m.announced) :
      Act policy sinks m label (m.keepCall call (.waiting entry.id request sink), [])
  | begins {label : Label} {call : Nat} {request : SubscribeRequest} {sink : Nat} {quota : Quota}
      (looks : Looks policy m label call request sink) (free : m.lookup? request.target = none)
      (room : m.quota.acquire request.caller = .ok quota) :
      Act policy sinks m label
        (m.beginSetup call request sink quota, [.asked (.fetch request.target)])
  | fails {label : Label} {call : Nat} {setup : Setup} {result : CallResult}
      (pending : m.call? call = some (.settingUp setup))
      (fails : Fails policy m call setup label result) :
      Act policy sinks m label (m.failSetup call setup result)
  | advances {label : Label} {call : Nat} {setup : Setup} {stage : Stage} {question : Question}
      (pending : m.call? call = some (.settingUp setup))
      (advances : Advances call setup label stage question) :
      Act policy sinks m label (m.advance call setup stage question)
  | opens {call : Nat} {setup : Setup} {d : Deployment} {hearsEvents : Bool}
      {answer : Except WatchError (List Event)} {opening : Opening}
      (pending : m.call? call = some (.settingUp setup))
      (listing : setup.stage = .listing d hearsEvents)
      (session : openSession? policy setup.request d (answer.toOption.getD []) hearsEvents m.now =
        some opening) :
      Act policy sinks m (.listed call answer)
        (m.startWorker call setup opening
            (performAll sinks setup.sink setup.request.target m.sinks opening.effects).1,
          (performAll sinks setup.sink setup.request.target m.sinks opening.effects).2 ++
            [.opened setup.request.target, .returned call (.subscribed (.ok .started))])
  | abandons {call : Nat} {p : PendingCall} (pending : m.call? call = some p) :
      Act policy sinks m (.abandon call) (m.abandon call p, [])
  /-- A call tells entries to stop and waits for them. -/
  | stops {label : Label} {call : Nat} {test : Entry → Bool} (stops : label.Stops call test)
      (fresh : m.call? call = none) :
      Act policy sinks m label
        ((m.cancelWhere test).keepCall call
          (.stopping ((m.registry.filter test).map Entry.id)), [])
  | reads {call : Nat} {target : Target} (fresh : m.call? call = none)
      (sound : target.check = none) (allowed : policy.allowList.authorize target.ns = none) :
      Act policy sinks m (.readState call target)
        (m.keepCall call (.reading target), [.asked (.fetch target)])
  /-- An input arrives at a worker. -/
  | reaches {target : Target} {input : Input} {w : Worker} (found : m.worker? target = some w) :
      Act policy sinks m (.arrive target input)
        (m.updateWorker { w with inbox := w.inbox.add input }, [])
  /-- An input arrives while the subscription is being set up. -/
  | precedes {target : Target} {input : Input} {call : Nat} {setup : Setup}
      (found : m.setup? target = some (call, setup)) :
      Act policy sinks m (.arrive target input)
        (m.keepCall call (.settingUp { setup with inbox := setup.inbox.add input }), [])
  | ends (world : σ) {target : Target} {w : Worker} {ending : Ending} {said : List Occurrence}
      (found : m.worker? target = some w) (ends : Ends policy sinks m w ending said) :
      Act policy sinks m (.work target)
        (({ m with sinks := world } : Manager σ).endWorker w ending said)
  | turns (world : σ) {target : Target} {w : Worker} {signal : Signal} {inbox : Inbox}
      (found : m.worker? target = some w) (running : w.finished = false)
      (ticks : policy.config.tickInterval.isZero = false)
      (next : w.inbox.next? (m.isCancelled w.id) w.session.hearsEvents = some (signal, inbox))
      (going : (w.session.take m.now signal).ending = none) :
      Act policy sinks m (.work target)
        (({ m with sinks := world } : Manager σ).updateWorker
            { w with session := (w.session.take m.now signal).session, inbox := inbox },
          (performAll sinks w.sink w.target m.sinks (w.session.take m.now signal).effects).2)
  | setClock (now : Instant) : Act policy sinks m (.setClock now) ({ m with now := now }, [])
  | bind (sink : Nat) : Act policy sinks m (.bind sink) ({ m with bound := some sink }, [])

/-- A call that looks at the registry returns, waits or begins a setup. -/
theorem acts_attempt {m : Manager σ} {label : Label} {call : Nat} {request : SubscribeRequest}
    {sink : Nat} (looks : Looks policy m label call request sink) :
    Act policy sinks m label (m.attempt call request sink) := by
  unfold attempt
  split
  · rename_i entry hfound
    split
    · rename_i hannounced
      exact .returns (.active looks hfound (by simpa using hannounced))
    · rename_i hunannounced
      exact .waits looks hfound (by simpa using hunannounced)
  · rename_i hfree
    split
    · rename_i e hfull
      exact .returns (.noRoom looks hfree hfull)
    · rename_i quota hroom
      exact .begins looks hfree hroom

theorem acts_beginSubscribe {m : Manager σ} {call : Nat} (fresh : m.call? call = none)
    (request : SubscribeRequest) :
    Act policy sinks m (.subscribe call request) (m.beginSubscribe policy call request) := by
  unfold beginSubscribe
  split
  · rename_i e hrefuses
    exact .returns (.refused fresh hrefuses)
  · rename_i hpasses
    split
    · rename_i hunbound
      exact .returns (.unbound fresh hpasses hunbound)
    · rename_i sink hbound
      exact acts_attempt (.anew fresh hpasses hbound)

theorem acts_beginStop {m : Manager σ} {label : Label} {call : Nat} {test : Entry → Bool}
    (hstops : label.Stops call test) (fresh : m.call? call = none) :
    Act policy sinks m label (m.beginStop call test) := by
  unfold beginStop
  dsimp only
  split
  · rename_i hempty
    refine .returns (.nothingToStop hstops fresh fun e he => ?_)
    rw [List.isEmpty_iff, List.map_eq_nil_iff, List.filter_eq_nil_iff] at hempty
    simpa using hempty e he
  · exact .stops hstops fresh

theorem acts_beginRead {m : Manager σ} {call : Nat} (fresh : m.call? call = none)
    (target : Target) :
    Act policy sinks m (.readState call target) (m.beginRead policy call target) := by
  unfold beginRead
  split
  · exact .returns (.unreadable fresh)
  · rename_i hsound
    split
    · exact .returns (.unreadable fresh)
    · rename_i hallowed
      exact .reads fresh hsound hallowed

theorem acts_takeFetched {m : Manager σ} {call : Nat} {p : PendingCall}
    (hp : m.call? call = some p) {answer : Except WatchError (Option Deployment)} {r : Stepped σ}
    (h : m.takeFetched call answer p = some r) :
    Act policy sinks m (.fetched call answer) r := by
  unfold takeFetched at h
  split at h
  · obtain rfl := Option.some.inj h
    exact .returns (.read hp)
  · split at h
    · rename_i e hstage
      obtain rfl := Option.some.inj h
      exact .fails hp (.fetch e hstage)
    · rename_i hstage
      obtain rfl := Option.some.inj h
      exact .fails hp (.missing hstage)
    · rename_i d hstage
      obtain rfl := Option.some.inj h
      exact .advances hp (.found d hstage)
    · cases h
  · cases h

theorem acts_takeWatched {m : Manager σ} {call : Nat} {p : PendingCall}
    (hp : m.call? call = some p) {answer : Except WatchError Unit} {r : Stepped σ}
    (h : m.takeWatched call answer p = some r) : Act policy sinks m (.watched call answer) r := by
  unfold takeWatched at h
  split at h
  · split at h
    · rename_i d e hstage
      obtain rfl := Option.some.inj h
      exact .fails hp (.watch d e hstage)
    · rename_i d hstage
      obtain rfl := Option.some.inj h
      exact .advances hp (.watched d hstage)
    · cases h
  · cases h

theorem acts_takeEventsWatched {m : Manager σ} {call : Nat} {p : PendingCall}
    (hp : m.call? call = some p) {answer : Except WatchError Unit} {r : Stepped σ}
    (h : m.takeEventsWatched call answer p = some r) :
    Act policy sinks m (.eventsWatched call answer) r := by
  unfold takeEventsWatched at h
  split at h
  · split at h
    · rename_i d hstage
      obtain rfl := Option.some.inj h
      exact .advances hp (.eventsWatched d answer hstage)
    · cases h
  · cases h

theorem acts_takeListed {m : Manager σ} {call : Nat} {p : PendingCall}
    (hp : m.call? call = some p) {answer : Except WatchError (List Event)} {r : Stepped σ}
    (h : m.takeListed policy sinks call answer p = some r) :
    Act policy sinks m (.listed call answer) r := by
  unfold takeListed at h
  split at h
  · split at h
    · rename_i d hearsEvents hstage
      obtain rfl := Option.some.inj h
      unfold finishSetup
      dsimp only
      split
      · rename_i hnone
        exact .fails hp (.brokeDown d hearsEvents answer hstage hnone)
      · rename_i opening hopening
        have hact : Act policy sinks m _ _ := .opens hp hstage hopening
        simpa only [answerCall, startWorker, Setup.worker, List.append_assoc,
          List.singleton_append] using hact
    · cases h
  · cases h

theorem acts_resume {m : Manager σ} {call : Nat} {p : PendingCall} (hp : m.call? call = some p)
    {r : Stepped σ} (h : m.resume call p = some r) : Act policy sinks m (.resume call) r := by
  unfold resume at h
  split at h
  · split at h
    · rename_i hannounced
      obtain rfl := Option.some.inj h
      exact .returns (.announced hp (by simpa using hannounced))
    · rename_i hunannounced
      split at h
      · cases h
      · rename_i hgone
        obtain rfl := Option.some.inj h
        exact acts_attempt (.again hp (by simpa using hunannounced) (by simpa using hgone))
  · split at h
    · rename_i hdone
      obtain rfl := Option.some.inj h
      refine .returns (.stopped hp ?_)
      simpa using hdone
    · cases h
  · cases h

theorem acts_arrive {m m' : Manager σ} {target : Target} {input : Input}
    (h : m.arrive target input = some m') : Act policy sinks m (.arrive target input) (m', []) := by
  unfold arrive at h
  split at h
  · rename_i w hw
    obtain rfl := Option.some.inj h
    exact .reaches hw
  · split at h
    · rename_i call setup hsetup
      split at h
      · obtain rfl := Option.some.inj h
        exact .precedes hsetup
      · cases h
    · cases h

theorem acts_work {m : Manager σ} {target : Target} {w : Worker} (hw : m.worker? target = some w)
    {r : Stepped σ} (h : m.work policy sinks w = some r) :
    Act policy sinks m (.work target) r := by
  unfold work at h
  split at h
  · rename_i hfinished
    obtain rfl := Option.some.inj h
    exact .ends m.sinks hw (.finished hfinished)
  · rename_i hfinished
    rw [Bool.not_eq_true] at hfinished
    split at h
    · rename_i htick
      obtain rfl := Option.some.inj h
      exact .ends m.sinks hw (.brokeDown hfinished htick)
    · rename_i htick
      rw [Bool.not_eq_true] at htick
      split at h
      · cases h
      · rename_i signal inbox hnext
        obtain rfl := Option.some.inj h
        unfold workOn
        simp only
        split
        · rename_i ending hending
          exact .ends _ hw (.turned hfinished htick signal ending hending)
        · rename_i hgoing
          exact .turns _ hw hfinished htick hnext hgoing

/-- A step begins a call only under a new number. -/
theorem ifFresh_eq_some {m : Manager σ} {call : Nat} {result r : Stepped σ}
    (h : m.ifFresh call result = some r) : m.call? call = none ∧ result = r := by
  unfold ifFresh at h
  split at h
  · cases h
  · rename_i hfresh
    exact ⟨by simpa using hfresh, Option.some.inj h⟩

/-- Under a new number a step does begin a call. -/
theorem ifFresh_of_fresh {m : Manager σ} {call : Nat} (hfresh : m.call? call = none)
    (result : Stepped σ) : m.ifFresh call result = some result := by
  rw [ifFresh, hfresh]
  rfl

/-- Every step comes about in one of the ways listed. -/
theorem step_acts {m : Manager σ} {label : Label} {r : Stepped σ}
    (h : m.step policy sinks label = some r) : Act policy sinks m label r := by
  cases label with
  | subscribe call request =>
      obtain ⟨hfresh, rfl⟩ := ifFresh_eq_some h
      exact acts_beginSubscribe hfresh request
  | unsubscribe call target =>
      obtain ⟨hfresh, rfl⟩ := ifFresh_eq_some h
      exact acts_beginStop (.unsubscribe call target) hfresh
  | shutdown call =>
      obtain ⟨hfresh, rfl⟩ := ifFresh_eq_some h
      exact acts_beginStop (.shutdown call) hfresh
  | readState call target =>
      obtain ⟨hfresh, rfl⟩ := ifFresh_eq_some h
      exact acts_beginRead hfresh target
  | fetched call answer =>
      obtain ⟨p, hp, h⟩ := Option.bind_eq_some_iff.mp h
      exact acts_takeFetched hp h
  | watched call answer =>
      obtain ⟨p, hp, h⟩ := Option.bind_eq_some_iff.mp h
      exact acts_takeWatched hp h
  | eventsWatched call answer =>
      obtain ⟨p, hp, h⟩ := Option.bind_eq_some_iff.mp h
      exact acts_takeEventsWatched hp h
  | listed call answer =>
      obtain ⟨p, hp, h⟩ := Option.bind_eq_some_iff.mp h
      exact acts_takeListed hp h
  | resume call =>
      obtain ⟨p, hp, h⟩ := Option.bind_eq_some_iff.mp h
      exact acts_resume hp h
  | abandon call =>
      obtain ⟨p, hp, rfl⟩ := Option.map_eq_some_iff.mp h
      exact .abandons hp
  | arrive target input =>
      obtain ⟨m', hm', rfl⟩ := Option.map_eq_some_iff.mp h
      exact acts_arrive hm'
  | work target =>
      obtain ⟨w, hw, h⟩ := Option.bind_eq_some_iff.mp h
      exact acts_work hw h
  | setClock now =>
      obtain rfl := Option.some.inj h
      exact .setClock now
  | bind sink =>
      obtain rfl := Option.some.inj h
      exact .bind sink

/-! ## What is found -/

variable {m : Manager σ} {label : Label} {call : Nat}

theorem mem_of_call? {p : PendingCall} (h : m.call? call = some p) : (call, p) ∈ m.calls := by
  obtain ⟨before, after, hsplit, -⟩ := List.lookup_eq_some_iff.mp h
  rw [hsplit]
  exact List.mem_append_right _ List.mem_cons_self

theorem setupOf?_of_call? {p : PendingCall} (h : m.call? call = some p) :
    m.setupOf? call = p.setup? := by
  rw [setupOf?, h]
  rfl

theorem setupOf?_of_fresh (h : m.call? call = none) : m.setupOf? call = none := by
  rw [setupOf?, h]
  rfl

theorem mem_of_worker? {target : Target} {w : Worker} (h : m.worker? target = some w) :
    w ∈ m.workers :=
  List.mem_of_find?_eq_some h

theorem target_of_worker? {target : Target} {w : Worker} (h : m.worker? target = some w) :
    w.target = target := by
  have hfound := List.find?_some h
  exact beq_iff_eq.mp hfound

/-- The call that is found to set up a target does so, and it is that target. -/
theorem mem_calls_of_setup? {target : Target} {setup : Setup}
    (h : m.setup? target = some (call, setup)) :
    (call, .settingUp setup) ∈ m.calls ∧ setup.request.target = target := by
  obtain ⟨c, hc, hpick⟩ := List.exists_of_findSome?_eq_some h
  split at hpick
  · split at hpick
    · rename_i htarget
      obtain ⟨rfl, rfl⟩ := Prod.mk.inj (Option.some.inj hpick)
      exact ⟨hc, htarget⟩
    · cases hpick
  · cases hpick

theorem call?_of_setup? (hm : m.Distinct) {target : Target} {setup : Setup}
    (h : m.setup? target = some (call, setup)) : m.call? call = some (.settingUp setup) :=
  lookup_of_mem hm.calls (mem_calls_of_setup? h).1

/-! ## Who takes a step -/

theorem Looks.call? {request : SubscribeRequest} {sink : Nat}
    (h : Looks policy m label call request sink) : label.call? = some call := by
  cases h <;> rfl

/-- A call that looks at the registry sets nothing up yet. -/
theorem Looks.setupOf? {request : SubscribeRequest} {sink : Nat}
    (h : Looks policy m label call request sink) : m.setupOf? call = none := by
  cases h with
  | anew fresh passes bound => exact setupOf?_of_fresh fresh
  | again waiting unannounced gone => exact setupOf?_of_call? waiting

/-- A call that looks at the registry does so in its step. -/
theorem Looks.step_eq {request : SubscribeRequest} {sink : Nat}
    (h : Looks policy m label call request sink) :
    m.step policy sinks label = some (m.attempt call request sink) := by
  cases h with
  | anew fresh passes bound => simp [step, ifFresh, fresh, beginSubscribe, passes, bound]
  | again waiting unannounced gone => simp [step, waiting, resume, unannounced, gone]

theorem stops_call? {test : Entry → Bool} (h : label.Stops call test) :
    label.call? = some call := by
  cases h <;> rfl

theorem Returns.call? {result : CallResult} (h : Returns policy m label call result) :
    label.call? = some call := by
  cases h with
  | active looks | noRoom looks => exact looks.call?
  | nothingToStop stops => exact stops_call? stops
  | refused | unbound | announced | stopped | unreadable | read => rfl

/-- A call that returns so holds no setup. -/
theorem Returns.setupOf? {result : CallResult} (h : Returns policy m label call result) :
    m.setupOf? call = none := by
  cases h with
  | active looks | noRoom looks => exact looks.setupOf?
  | refused fresh | unbound fresh | nothingToStop stops fresh | unreadable fresh =>
      exact setupOf?_of_fresh fresh
  | announced pending | stopped pending | read pending => exact setupOf?_of_call? pending

theorem Fails.call? {setup : Setup} {result : CallResult}
    (h : Fails policy m call setup label result) : label.call? = some call := by
  cases h <;> rfl

theorem Advances.call? {setup : Setup} {stage : Stage} {question : Question}
    (h : Advances call setup label stage question) : label.call? = some call := by
  cases h <;> rfl

end Manager
end ProvisionWatch

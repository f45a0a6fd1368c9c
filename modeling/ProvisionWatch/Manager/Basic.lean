import ProvisionWatch.AllowList
import ProvisionWatch.Config
import ProvisionWatch.Session.Inbox
import ProvisionWatch.Session.Opening
import ProvisionWatch.Sink

/-!
# The state of the manager

The manager keeps at most one subscription for each target.  A call to
subscribe registers its target, takes a slot and sets the subscription up; the
worker that streams then owns both until it ends.  Calls that have to wait are
kept with what they wait for.

Main results:

- Theorem `lookup?_register`: a registered target is found.
- Theorem `lookup?_unregister`: and not any more once its entry is removed.
- Theorem `released_of_mem_done`: in the course of a teardown nobody is told of
  it before slot and entry are gone.
-/

namespace ProvisionWatch

/-! ## What is fixed -/

/-- Where updates are handed to: sinks by number, with a state of their own. -/
structure SinkInterface (σ : Type) where
  offer : σ → Nat → Target → Update → σ × Option SinkError

/-- What stays the same while a manager runs. -/
structure Policy where
  config : Config
  rules : List Rule
  allowList : AllowList
deriving DecidableEq, Repr

/-! ## Calls -/

/-- A call to subscribe. -/
structure SubscribeRequest where
  caller : String
  target : Target
  timeout : Option Duration
deriving DecidableEq, Repr

/-- How a call to subscribe can succeed. -/
inductive SubscribeOutcome where
  | started
  | alreadyActive
deriving DecidableEq, Repr

/-- What a call returns. -/
inductive CallResult where
  | subscribed (outcome : Except MonitorError SubscribeOutcome)
  /-- A call to subscribe broke down. -/
  | brokeDown
  /-- A call to stop has seen everything stop. -/
  | stopped
  | state (outcome : Except MonitorError Update)

/-- How far a setup has come. -/
inductive Stage where
  /-- The deployment is being fetched. -/
  | fetching
  /-- Its watch is being opened. -/
  | watching (deployment : Deployment)
  /-- The stream of events is being opened. -/
  | watchingEvents (deployment : Deployment)
  /-- The latest events are being listed. -/
  | listing (deployment : Deployment) (hearsEvents : Bool)

/-- A call to subscribe that sets a subscription up. -/
structure Setup where
  /-- The number of its entry. -/
  id : Nat
  request : SubscribeRequest
  sink : Nat
  stage : Stage
  inbox : Inbox

/-- A call that has not returned. -/
inductive PendingCall where
  /-- Waits for the setup with some entry. -/
  | waiting (entry : Nat) (request : SubscribeRequest) (sink : Nat)
  | settingUp (setup : Setup)
  /-- Waits until some entries are torn down. -/
  | stopping (entries : List Nat)
  /-- Fetches a deployment to read its state. -/
  | reading (target : Target)

/-! ## Subscriptions -/

/-- A registered target. -/
structure Entry where
  id : Nat
  target : Target
  /-- Whether the subscription was told to stop. -/
  cancelled : Bool
deriving DecidableEq, Repr

/-- A subscription that streams. -/
structure Worker where
  id : Nat
  caller : String
  target : Target
  sink : Nat
  session : Session
  /-- The session had its last update before it could stream. -/
  finished : Bool
  inbox : Inbox

/-- The state of the manager and of the sinks. -/
structure Manager (σ : Type) where
  now : Instant
  sinks : σ
  /-- The sink for new subscriptions. -/
  bound : Option Nat
  quota : Quota
  nextId : Nat
  registry : List Entry
  /-- The entries whose setup came to its first update. -/
  announced : List Nat
  /-- The entries that are torn down, for those who wait for that. -/
  done : List Nat := []
  calls : List (Nat × PendingCall)
  workers : List Worker

namespace Manager

variable {σ : Type}

/-- A manager without subscriptions. -/
def start (now : Instant) (sinks : σ) (bound : Option Nat) (quota : Quota) : Manager σ :=
  { now := now
    sinks := sinks
    bound := bound
    quota := quota
    nextId := 1
    registry := []
    announced := []
    done := []
    calls := []
    workers := [] }

/-- The entry of a target. -/
def lookup? (m : Manager σ) (target : Target) : Option Entry :=
  m.registry.find? fun e => e.target == target

/-- Whether an entry is registered. -/
def isRegistered (m : Manager σ) (id : Nat) : Bool :=
  m.registry.any fun e => e.id == id

/-- Whether an entry was told to stop. -/
def isCancelled (m : Manager σ) (id : Nat) : Bool :=
  m.registry.any fun e => e.id == id && e.cancelled

/-- Whether a target has a subscription, or one that is being set up. -/
def isSubscribed (m : Manager σ) (target : Target) : Bool :=
  (m.lookup? target).isSome

/-- The registered targets in order. -/
def activeTargets (m : Manager σ) : List Target :=
  (m.registry.map Entry.target).mergeSort Target.noLater

/-- The call with some number, if it has not returned. -/
def call? (m : Manager σ) (call : Nat) : Option PendingCall :=
  m.calls.lookup call

/-- The worker of a target. -/
def worker? (m : Manager σ) (target : Target) : Option Worker :=
  m.workers.find? fun w => w.target == target

/-- Keep a call, in the place of what was kept for it. -/
def keepCall (m : Manager σ) (call : Nat) (p : PendingCall) : Manager σ :=
  { m with calls := m.calls.filter (fun c => c.1 != call) ++ [(call, p)] }

/-- Forget a call. -/
def dropCall (m : Manager σ) (call : Nat) : Manager σ :=
  { m with calls := m.calls.filter fun c => c.1 != call }

/-- Register a target under the next number. -/
def register (m : Manager σ) (target : Target) : Manager σ :=
  { m with
    nextId := m.nextId + 1
    registry := m.registry ++ [{ id := m.nextId, target := target, cancelled := false }] }

/-- Give back the slot of a caller. -/
def freeSlot (m : Manager σ) (caller : String) : Manager σ :=
  { m with quota := m.quota.release caller }

/-- Remove an entry. -/
def removeEntry (m : Manager σ) (id : Nat) : Manager σ :=
  { m with registry := m.registry.filter fun e => e.id != id }

/-- Tell those who wait for an entry that it is torn down. -/
def markDone (m : Manager σ) (id : Nat) : Manager σ :=
  { m with done := m.done ++ [id] }

/-- Tear an entry down: its slot is given back, then it is removed, and then that is told. -/
def unregister (m : Manager σ) (id : Nat) (caller : String) : Manager σ :=
  ((m.freeSlot caller).removeEntry id).markDone id

/-- The states that the teardown of an entry goes through. -/
def teardown (m : Manager σ) (id : Nat) (caller : String) : List (Manager σ) :=
  [m.freeSlot caller, (m.freeSlot caller).removeEntry id, m.unregister id caller]

/-- Tell the entries that satisfy a test to stop. -/
def cancelWhere (m : Manager σ) (test : Entry → Bool) : Manager σ :=
  { m with
    registry := m.registry.map fun e => if test e then { e with cancelled := true } else e }

/-- Keep a worker in the place of the one with its number. -/
def updateWorker (m : Manager σ) (w : Worker) : Manager σ :=
  { m with workers := m.workers.map fun v => if v.id == w.id then w else v }

/-- A teardown takes just its own entry out of the registry. -/
@[simp]
theorem registry_unregister (m : Manager σ) (id : Nat) (caller : String) :
    (m.unregister id caller).registry = m.registry.filter fun e => e.id != id :=
  rfl

/-- A teardown marks just its own entry. -/
@[simp]
theorem done_unregister (m : Manager σ) (id : Nat) (caller : String) :
    (m.unregister id caller).done = m.done ++ [id] :=
  rfl

/-- A target that was entered is found with the entry it got. -/
theorem lookup?_register (m : Manager σ) (target : Target) (h : m.lookup? target = none) :
    (m.register target).lookup? target =
      some { id := m.nextId, target := target, cancelled := false } := by
  unfold lookup? at h ⊢
  simp [register, List.find?_append, h]

/-- A target is not found anymore once its only entry is gone. -/
theorem lookup?_unregister (m : Manager σ) (id : Nat) (caller : String) (target : Target)
    (h : ∀ e ∈ m.registry, e.target = target → e.id = id) :
    (m.unregister id caller).lookup? target = none := by
  simp only [lookup?, registry_unregister, List.find?_eq_none, List.mem_filter, bne_iff_ne,
    beq_iff_eq, and_imp]
  intro e he hne ht
  exact hne (h e he ht)

/-- As long as a teardown goes on, only who finds slot and entry gone is told that it is done. -/
theorem released_of_mem_done (m : Manager σ) (id : Nat) (caller : String) {s : Manager σ}
    (hs : s ∈ m.teardown id caller) (hdone : id ∈ s.done) (hbefore : id ∉ m.done) :
    s.quota = m.quota.release caller ∧ s.isRegistered id = false := by
  simp only [teardown, List.mem_cons, List.not_mem_nil, or_false] at hs
  rcases hs with rfl | rfl | rfl
  · exact absurd hdone hbefore
  · exact absurd hdone hbefore
  · exact ⟨rfl, by simp [isRegistered]⟩

end Manager
end ProvisionWatch

import ProvisionWatch.Clock
import ProvisionWatch.Manager.Counting
import ProvisionWatch.Rehearsal.Cluster

/-!
# Rehearsals

A rehearsal runs a manager against a cluster in memory, with a clock that is
moved by hand and sinks that are queues.  Fetches take some time before they
are answered; all other questions are answered at once.
-/

namespace ProvisionWatch

/-- Sinks by number, each of them a queue. -/
def sinkQueues : SinkInterface (List SinkQueue) where
  offer queues n target u :=
    match queues[n]? with
    | some q =>
        let (q, refusal) := q.offer target u
        (queues.set n q, refusal)
    | none => (queues, some .disconnected)

/-- A manager and everything around it. -/
structure Rehearsal where
  policy : Policy
  /-- How much a sink holds. -/
  sinkCapacity : Nat
  manager : Manager (List SinkQueue)
  clock : ManualClock
  cluster : MemoryCluster
  /-- How long a fetch takes. -/
  fetchDelay : Duration
  /-- How much time has passed, in nanoseconds. -/
  elapsed : Nat
  /-- When fetches are answered, and for which calls. -/
  fetches : List (Nat × Nat)
  /-- What was asked by which call and is answered at once. -/
  questions : List (Nat × Question)
  /-- When the timers of workers tick next. -/
  timers : List (Target × Nat)
  /-- The targets whose workers were woken up, in this order. -/
  awake : List Target
  /-- Whether the sinks are left alone between actions. -/
  held : Bool
  metrics : Metrics
  results : List (Nat × CallResult)
  /-- Calls that were given up before they returned. -/
  abandoned : List Nat
  /-- Calls that nobody waits for, by name. -/
  named : List (String × Nat)
  nextCall : Nat

namespace Rehearsal

/-- A manager with nothing around it. -/
def start (policy : Policy) (quota : Quota) (now : Instant) (sinkCapacity : Nat) : Rehearsal :=
  { policy := policy
    sinkCapacity := sinkCapacity
    manager := .start now [] none quota
    clock := .new now
    cluster := .empty
    fetchDelay := ⟨0⟩
    elapsed := 0
    fetches := []
    questions := []
    timers := []
    awake := []
    held := false
    metrics := .zero
    results := []
    abandoned := []
    named := []
    nextCall := 0 }

/-! ## Steps of the manager -/

/-- When a timer ticks that is started now. -/
def nextTick (r : Rehearsal) : Nat :=
  r.elapsed + r.policy.config.tickInterval.nanos

/-- Take in an occurrence of a step about some call. -/
def note (call : Option Nat) (r : Rehearsal) : Occurrence → Rehearsal
  | .asked (.fetch _) =>
      { r with
        cluster := { r.cluster with fetchCount := r.cluster.fetchCount + 1 }
        fetches := r.fetches ++ call.toList.map fun c => (r.elapsed + r.fetchDelay.nanos, c) }
  | .asked question =>
      { r with questions := r.questions ++ call.toList.map fun c => (c, question) }
  | .returned call result => { r with results := (call, result) :: r.results }
  | .opened target =>
      { r with
        timers := r.timers.filter (fun t => t.1 != target) ++ [(target, r.nextTick)] }
  | _ => r

/-- Let a step take place, if it is possible. -/
def apply (r : Rehearsal) (label : Label) : Rehearsal :=
  match r.manager.step r.policy sinkQueues label with
  | none => r
  | some (m, occurred) =>
      occurred.foldl (note label.call?)
        { r with manager := m, metrics := r.metrics.recordAll occurred }

/-! ## Inputs of workers -/

/-- How many items wait in an inbox. -/
def inboxSize (b : Inbox) : Nat :=
  b.resources.length + b.events.length + if b.tickDue then 1 else 0

/-- Whether something waits for the worker of a target. -/
def isAwake (r : Rehearsal) (target : Target) : Bool :=
  (r.manager.worker? target).any fun w => inboxSize w.inbox != 0

/-- Let an input arrive.  A worker that it wakes up takes its turn behind those that are awake. -/
def bring (r : Rehearsal) (target : Target) (input : Input) : Rehearsal :=
  let awake := r.awake.filter r.isAwake
  ({ r with awake := if awake.contains target then awake else awake ++ [target] } : Rehearsal).apply
    (.arrive target input)

/-- The workers in the order of their turns: those that were woken up come first. -/
def turns (r : Rehearsal) : List Worker :=
  r.awake.filterMap r.manager.worker? ++ r.manager.workers

/-! ## Answers of the cluster -/

/-- The target that a call fetches. -/
def fetchedTarget? (r : Rehearsal) (call : Nat) : Option Target :=
  match r.manager.call? call with
  | some (.settingUp setup) => some setup.request.target
  | some (.reading target) => some target
  | _ => none

/-- Answer the fetch of a call. -/
def answerFetch (r : Rehearsal) (call : Nat) : Rehearsal :=
  match r.fetchedTarget? call with
  | some target =>
      let (cluster, answer) := r.cluster.fetch target
      ({ r with cluster := cluster } : Rehearsal).apply (.fetched call answer)
  | none => r

/-- Answer a question of a call. -/
def answerQuestion (r : Rehearsal) (call : Nat) : Question → Rehearsal
  | .fetch _ => r.answerFetch call
  | .watch _ =>
      let (cluster, answer) := r.cluster.openWatch
      ({ r with cluster := cluster } : Rehearsal).apply (.watched call answer)
  | .watchEvents _ =>
      let (cluster, answer) := r.cluster.openEventWatch
      ({ r with cluster := cluster } : Rehearsal).apply (.eventsWatched call answer)
  | .listEvents _ =>
      let (cluster, answer) := r.cluster.listEvents
      ({ r with cluster := cluster } : Rehearsal).apply (.listed call answer)

end Rehearsal
end ProvisionWatch

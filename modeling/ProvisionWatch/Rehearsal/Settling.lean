import ProvisionWatch.Rehearsal.Basic

/-!
# Settling

After each action of a rehearsal everything goes on that can go on without time
passing: questions are answered, workers take what waits for them, waiting calls
look again, and what is due happens, in this order.  What is due are answers to
fetches and ticks of timers; whatever was due first happens first.

Time passes in two ways.  When it is made to pass it jumps to its goal at once,
so that what is due on the way happens late.  When a call is waited for it moves
from one due time to the next, so that everything happens on time.
-/

namespace ProvisionWatch
namespace Rehearsal

/-! ## What is due -/

/-- Something that happens when its time comes. -/
inductive Alarm where
  /-- The fetch of a call is answered. -/
  | answer (due call : Nat)
  /-- The timer of a worker ticks. -/
  | tick (due : Nat) (target : Target)

/-- When an alarm rings. -/
def Alarm.due : Alarm → Nat
  | .answer due _ => due
  | .tick due _ => due

/-- All that is to come at its time; the timers of workers that have ended are silent. -/
def alarms (r : Rehearsal) : List Alarm :=
  let timers := r.timers.filter fun t => (r.manager.worker? t.1).isSome
  r.fetches.map (fun f => .answer f.1 f.2) ++ timers.map fun t => .tick t.2 t.1

/-- Of two alarms the one that rings first. -/
def Alarm.earlier (a b : Alarm) : Alarm :=
  if b.due < a.due then b else a

/-- What comes next. -/
def nextAlarm? (r : Rehearsal) : Option Alarm :=
  match r.alarms with
  | [] => none
  | a :: rest => some (rest.foldl Alarm.earlier a)

/-- A timer that is not later than this, in nanoseconds, is punctual. -/
def leeway : Nat := 5000000

/-- When a timer that was due at some time and ticks now ticks again: a punctual timer keeps its
rhythm, and a late one starts anew. -/
def tickAfter (r : Rehearsal) (due : Nat) : Nat :=
  if r.elapsed ≤ due + leeway then due + r.policy.config.tickInterval.nanos else r.nextTick

/-- Let an alarm ring. -/
def ring (r : Rehearsal) : Alarm → Rehearsal
  | .answer due call =>
      ({ r with fetches := r.fetches.erase (due, call) } : Rehearsal).answerFetch call
  | .tick due target =>
      let timers := r.timers.map fun t => if t.1 = target then (target, r.tickAfter due) else t
      ({ r with timers := timers } : Rehearsal).bring target .tick

/-- Let the next alarm ring if it is due. -/
def ringNext? (r : Rehearsal) : Option Rehearsal :=
  match r.nextAlarm? with
  | some alarm => if alarm.due ≤ r.elapsed then some (r.ring alarm) else none
  | none => none

/-! ## Without time passing -/

/-- Answer the first question. -/
def answerNext? (r : Rehearsal) : Option Rehearsal :=
  match r.questions with
  | [] => none
  | (call, question) :: rest =>
      some (({ r with questions := rest } : Rehearsal).answerQuestion call question)

/-- Let the first worker that can go on do so. -/
def workNext? (r : Rehearsal) : Option Rehearsal :=
  (r.turns.find? fun w => (r.manager.work r.policy sinkQueues w).isSome).map fun w =>
    r.apply (.work w.target)

/-- Let the first waiting call that can go on do so. -/
def resumeNext? (r : Rehearsal) : Option Rehearsal :=
  (r.manager.calls.find? fun (call, p) => (r.manager.resume call p).isSome).map fun (call, _) =>
    r.apply (.resume call)

/-- The first thing that can go on without time passing. -/
def goOn? (r : Rehearsal) : Option Rehearsal :=
  r.answerNext? <|> r.workNext? <|> r.resumeNext? <|> r.ringNext?

/-- Let things go on, a limited number of times. -/
def goOnFor : Nat → Rehearsal → Rehearsal
  | 0, r => r
  | n + 1, r =>
      match r.goOn? with
      | some r => goOnFor n r
      | none => r

/-- How many items wait for a call to be set up. -/
def callSize : PendingCall → Nat
  | .settingUp setup => inboxSize setup.inbox
  | _ => 0

/-- More often than this nothing can go on: each call looks again at most once before it sets up a
subscription itself, which asks four questions and ends with a worker, and each worker takes what
waits for it and ends.  A timer ticks again at once only as long as it is punctual. -/
def patience (r : Rehearsal) : Nat :=
  let ticks := leeway / r.policy.config.tickInterval.nanos + 1
  let calls := r.manager.calls.foldl (fun n (_, p) => n + 10 + callSize p) 0
  let workers := r.manager.workers.foldl (fun n w => n + 2 + inboxSize w.inbox + 2 * ticks) 0
  calls + workers + r.questions.length + r.fetches.length

/-- Let everything go on that can. -/
def settle (r : Rehearsal) : Rehearsal :=
  goOnFor r.patience r

/-! ## With time passing -/

/-- Go to a later time at once. -/
def jump (r : Rehearsal) (later : Nat) : Rehearsal :=
  ({ r with elapsed := if later < r.elapsed then r.elapsed else later } : Rehearsal).settle

/-- Let time pass. -/
def pass (r : Rehearsal) (d : Duration) : Rehearsal :=
  r.jump (r.elapsed + d.nanos)

/-- Let time pass until a call returns, for a limited number of alarms. -/
def awaitFor (call : Nat) : Nat → Rehearsal → Rehearsal
  | 0, r => r
  | n + 1, r =>
      if (r.results.lookup call).isSome then r
      else
        match r.nextAlarm? with
        | some alarm => awaitFor call n (r.jump alarm.due)
        | none => r

/-- How many alarms can ring before no call waits for a fetch any more: each call fetches at most
once more, and the timer of each worker, and of each that is still to begin, ticks until then. -/
def alarmsLeft (r : Rehearsal) : Nat :=
  let calls := r.manager.calls.length
  let fetches := calls + r.fetches.length
  let wait := r.fetches.foldl (fun n f => if n < f.1 - r.elapsed then f.1 - r.elapsed else n) 0
  let horizon := wait + calls * r.fetchDelay.nanos
  let ticks := horizon / r.policy.config.tickInterval.nanos + 1
  fetches + (r.manager.workers.length + calls) * ticks

/-- Let time pass until a call returns. -/
def await (r : Rehearsal) (call : Nat) : Rehearsal :=
  let r := r.settle
  awaitFor call r.alarmsLeft r

end Rehearsal
end ProvisionWatch

import ProvisionWatch.Subscription.Basic

/-!
# What a subscription takes in

A change of the deployment always gives an update.  An event gives one if it is
in scope and a rule maps its reason to a phase; the rule never beats a terminal
classification of the whole snapshot.

Main results:

- Theorem `evaluateEvent_phase`: an event's update is in the phase of its rule
  unless the classification is terminal.
-/

namespace ProvisionWatch

/-- How a watched deployment changed. -/
inductive ChangeKind where
  | added
  | modified
  | deleted
deriving DecidableEq, Repr, Inhabited

/-- One change of a watched deployment. -/
structure Change where
  deployment : Deployment
  kind : ChangeKind

namespace Subscription

/-! ## Changes -/

/-- The subscription with a new snapshot; changed conditions restart the stall clock. -/
def withSnapshot (s : Subscription) (snapshot : Snapshot) (now : Instant) : Subscription :=
  let same := s.lastSnapshot.any fun last => last.conditions == snapshot.conditions
  { s with
    lastSnapshot := some snapshot
    lastChange := if same then s.lastChange else now
    stallReported := same && s.stallReported }

/-- A new snapshot leaves the scope alone. -/
@[simp]
theorem scope_withSnapshot (s : Subscription) (snapshot : Snapshot) (now : Instant) :
    (s.withSnapshot snapshot now).scope = s.scope :=
  rfl

/-- A new snapshot says nothing. -/
@[simp]
theorem lastSaid_withSnapshot (s : Subscription) (snapshot : Snapshot) (now : Instant) :
    (s.withSnapshot snapshot now).lastSaid = s.lastSaid :=
  rfl

/-- Take in a change of the deployment. -/
def applyChange (s : Subscription) (change : Change) (now : Instant) : Subscription × Update :=
  match change.kind with
  | .deleted => (s, s.deletedNotice now)
  | .added | .modified =>
      let snapshot := change.deployment.snapshot
      let update := Update.ofSnapshot snapshot s.scope.covered now
      ({ s.withSnapshot snapshot now with phase := update.phase }, update)

/-! ## Events -/

/-- The update that an event gives in the light of the last snapshot. -/
def evaluateEvent (s : Subscription) (e : Event) (now : Instant) : Option Update :=
  (s.scope.evaluate e now).map fun evaluation =>
    let snapshot := s.lastSnapshot.getD .blank
    let classified := snapshot.classify (s.scope.covered ++ [e])
    let phase := if classified.isTerminal then classified else evaluation.phase
    let update :=
      ((Update.new evaluation.timestamp phase evaluation.message evaluation.reason
        .event).withSnapshot snapshot).withProgress (phase.estimate snapshot.conditions)
    { update with
      severity := if phase = .failed then update.severity else evaluation.severity
      relatedObject := some evaluation.relatedObject }

/-- The subscription in the phase of an update, if there is one. -/
def inPhaseOf (s : Subscription) : Option Update → Subscription
  | none => s
  | some u => { s with phase := u.phase }

/-- Going to a phase leaves the scope alone. -/
@[simp]
theorem scope_inPhaseOf (s : Subscription) (update : Option Update) :
    (s.inPhaseOf update).scope = s.scope := by
  cases update <;> rfl

/-- Going to a phase says nothing. -/
@[simp]
theorem lastSaid_inPhaseOf (s : Subscription) (update : Option Update) :
    (s.inPhaseOf update).lastSaid = s.lastSaid := by
  cases update <;> rfl

/-- Take in an event: judge it, then retain it.  If it cannot be retained the phase stays. -/
def applyEvent (s : Subscription) (e : Event) (now : Instant) :
    Subscription × Except RangeFault (Option Update) :=
  let update := s.evaluateEvent e now
  match s.scope.observe e now with
  | (scope, .ok ()) => ({ s with scope := scope }.inPhaseOf update, .ok update)
  | (scope, .error fault) => ({ s with scope := scope }, .error fault)

/-- Judge an event that is retained already. -/
def replayEvent (s : Subscription) (e : Event) (now : Instant) : Subscription × Option Update :=
  let update := s.evaluateEvent e now
  (s.inPhaseOf update, update)

/-! ## Seeding -/

/-- Retain events one after the other, up to the first that cannot be retained. -/
def observeAll (scope : Scope) (now : Instant) : List Event → Scope × Except RangeFault Unit
  | [] => (scope, .ok ())
  | e :: rest =>
      match scope.observe e now with
      | (scope, .ok ()) => observeAll scope now rest
      | (scope, .error fault) => (scope, .error fault)

/-- Retain the newest of the listed events, so many at most.  The answer is the newest event that
is retained and says something. -/
def seed (s : Subscription) (events : List Event) (limit : Nat) (now : Instant) :
    Subscription × Except RangeFault (Option Event) :=
  let newest := Window.lastOf limit (events.mergeSort Event.noLater)
  match observeAll s.scope now newest with
  | (scope, .ok ()) =>
      ({ s with scope := scope },
        .ok (scope.covered.find? fun e => (scope.evaluate e now).isSome))
  | (scope, .error fault) => ({ s with scope := scope }, .error fault)

/-- Unless the classification is terminal, an event speaks in the phase of its rule. -/
theorem evaluateEvent_phase (s : Subscription) (e : Event) (now : Instant) {u : Update}
    (h : s.evaluateEvent e now = some u)
    (hc : ((s.lastSnapshot.getD .blank).classify (s.scope.covered ++ [e])).isTerminal = false) :
    ∃ rule, s.scope.rule? e.reason = some rule ∧ u.phase = rule.phase := by
  unfold evaluateEvent Scope.evaluate at h
  split at h
  · simp only [Option.map_map, Option.map_eq_some_iff] at h
    obtain ⟨rule, hrule, rfl⟩ := h
    exact ⟨rule, hrule, by simp [hc, Update.withProgress, Update.withSnapshot, Update.new]⟩
  · simp at h

end Subscription
end ProvisionWatch

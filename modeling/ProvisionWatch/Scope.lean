import ProvisionWatch.Phase
import ProvisionWatch.Target
import ProvisionWatch.Window

/-!
# The scope of a target

Which events belong to the story of one deployment, and which of them move its
phase.  Every event seen is retained, in scope or not.

An event is about the deployment itself or about one of the objects made for
it.  Those are told by their names alone: the name of the deployment, or that
name and a dash in front of more.

Main results:

- Theorem `evaluate_of_not_covers`: an event out of scope says nothing.
-/

namespace ProvisionWatch

/-! ## Rules -/

/-- The phase that an event with some reason implies. -/
structure Rule where
  reason : String
  phase : Phase
deriving DecidableEq, Repr

/-- The rules that hold unless others are given. -/
def Rule.standard : List Rule :=
  [ ⟨"ServiceInstalling", .installing⟩,
    ⟨"ServiceSetInstalling", .installing⟩,
    ⟨"InfrastructureProvisioning", .provisioning⟩,
    ⟨"ControlPlaneInitializing", .bootstrapping⟩ ]

/-- What an event says about the phase. -/
structure Evaluation where
  timestamp : Instant
  phase : Phase
  message : String
  reason : String
  severity : Severity
  relatedObject : ObjectRef
deriving DecidableEq

/-! ## Scopes -/

/-- The scope of one target, and the events seen lately. -/
structure Scope where
  target : Target
  rules : List Rule
  window : Window
deriving DecidableEq

namespace Scope

/-- The kind of a deployment. -/
def deploymentKind : String := "ClusterDeployment"

/-- The kinds of the objects that are made for a deployment and named after it. -/
def subsidiaryKinds : List String :=
  ["ServiceSet", "Cluster", "MachineDeployment", "Machine"]

/-- A scope in which nothing was seen yet. -/
def new (target : Target) (rules : List Rule) (retention : Retention) : Scope :=
  { target := target, rules := rules, window := .empty retention }

/-- Whether a name is that of a target with a dash and more behind it. -/
def isBehind (name target : String) : Bool :=
  (target.toList ++ ['-']).isPrefixOf name.toList

/-- Whether an event belongs to the target.  An event without a namespace can belong to any. -/
def covers (s : Scope) (e : Event) : Bool :=
  let object := e.involved
  if object.ns.any fun ns => ns != "" && ns != s.target.ns then
    false
  else if object.name = s.target.name then
    object.kind == "" || object.kind == deploymentKind || subsidiaryKinds.contains object.kind
  else
    subsidiaryKinds.contains object.kind && isBehind object.name s.target.name

/-- The first rule for a reason. -/
def rule? (s : Scope) (reason : String) : Option Rule :=
  s.rules.find? fun r => r.reason == reason

/-- What is said for an event without a message. -/
def messageOf (e : Event) : String :=
  if e.message = "" then e.involved.kind ++ " reported " ++ e.reason else e.message

/-- What an event in scope says about the phase, if there is a rule for it. -/
def evaluate (s : Scope) (e : Event) (now : Instant) : Option Evaluation :=
  if s.covers e then
    (s.rule? e.reason).map fun rule =>
      { timestamp := now
        phase := rule.phase
        message := messageOf e
        reason := e.reason
        severity := if e.isWarning then .warning else .info
        relatedObject := e.involved }
  else
    none

/-- Retain an event. -/
def observe (s : Scope) (e : Event) (now : Instant) : Scope × Except RangeFault Unit :=
  let (window, result) := s.window.push e now
  ({ s with window := window }, result)

/-- Prune the retained events. -/
def prune (s : Scope) (now : Instant) : Scope × Except RangeFault Unit :=
  let (window, result) := s.window.prune now
  ({ s with window := window }, result)

/-- The retained events in scope, the last that arrived in front. -/
def covered (s : Scope) : List Event :=
  s.window.newestFirst.filter s.covers

/-- An event out of scope says nothing. -/
theorem evaluate_of_not_covers (s : Scope) (e : Event) (now : Instant)
    (h : s.covers e = false) : s.evaluate e now = none := by
  simp [evaluate, h]

end Scope
end ProvisionWatch

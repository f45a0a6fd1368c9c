import ProvisionWatch.Condition
import ProvisionWatch.Time.Instant

/-!
# Snapshots

What is known of one deployment at one point in time: who it is, the phase its
own controller wrote, its conditions and its add-on services.

Main results:

- Theorem `condition?_of_mem`: with one condition for each type, each one is
  found by its type.
-/

namespace ProvisionWatch

/-- Identity and context of a cluster. -/
structure ClusterInfo where
  name : String
  ns : String
  template : String
  credential : Option String
  provider : Option String
  region : Option String
  createdAt : Option Instant
deriving DecidableEq

/-- The state of one add-on service. -/
structure Service where
  name : String
  ns : String
  template : String
  state : String
  type : String
  version : String
  conditions : List Condition
  lastTransitionTime : Option String
deriving DecidableEq, Repr, Inhabited

/-- A deployment at one point in time. -/
structure Snapshot where
  cluster : ClusterInfo
  /-- The phase written by the controller that owns the deployment. -/
  statusPhase : Option String
  conditions : List Condition
  services : List Service
deriving DecidableEq

/-- Nothing is known about the cluster. -/
def ClusterInfo.blank : ClusterInfo :=
  { name := "", ns := "", template := "", credential := none, provider := none, region := none,
    createdAt := none }

namespace Snapshot

/-- Nothing is known. -/
def blank : Snapshot :=
  { cluster := .blank, statusPhase := none, conditions := [], services := [] }

instance : Inhabited Snapshot := ⟨blank⟩

/-- The first condition of a type. -/
def condition? (s : Snapshot) (type : String) : Option Condition :=
  Condition.find type s.conditions

/-- The condition about a milestone. -/
def milestone? (s : Snapshot) (m : Milestone) : Option Condition :=
  s.condition? m.conditionType

/-- Where no type is repeated a condition is found under its type. -/
theorem condition?_of_mem (s : Snapshot) (h : (s.conditions.map Condition.type).Nodup)
    {c : Condition} (hc : c ∈ s.conditions) : s.condition? c.type = some c :=
  Condition.find_of_mem h hc

end Snapshot
end ProvisionWatch

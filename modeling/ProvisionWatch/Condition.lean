import ProvisionWatch.Text.Letters

/-!
# Conditions

A deployment reports conditions: a type, a status word and a reason.  Of
several reports of one type the last one counts, at the place of the first.

Main results:

- Theorem `find_of_mem`: with one condition for each type, each one is found.
- Theorem `merge_find_self`: after merging a condition, its type has exactly
  what was merged.
- Theorem `merge_find_of_ne`: the other types keep what they had.
- Theorem `types_merge`: merging adds at most the new type, at the end.
-/

namespace ProvisionWatch

/-- One status condition. -/
structure Condition where
  type : String
  /-- `True`, `False` or `Unknown`, in any letter case. -/
  status : String
  reason : String
  message : String
deriving DecidableEq, Repr, Inhabited

/-- A condition as the deployment reports it. -/
structure ReportedCondition where
  type : String
  status : String
  lastTransitionTime : Option String
  reason : Option String
  message : Option String
deriving DecidableEq, Repr, Inhabited

/-- What a condition can be about, among the types that decide the phase. -/
inductive Milestone where
  | ready
  | infrastructure
  | controlPlane
  | workers
  | failed
deriving DecidableEq, Repr

/-- The condition type of a milestone. -/
def Milestone.conditionType : Milestone → String
  | ready => "Ready"
  | infrastructure => "InfrastructureReady"
  | controlPlane => "ControlPlaneInitialized"
  | workers => "WorkersAvailable"
  | failed => "Failed"

/-- Every milestone. -/
def Milestone.all : List Milestone :=
  [.ready, .infrastructure, .controlPlane, .workers, .failed]

namespace Condition

/-- Whether the status is `True`. -/
def isTrue (c : Condition) : Bool :=
  Text.sameLetters c.status "true"

/-- Whether the status is `False`. -/
def isFalse (c : Condition) : Bool :=
  Text.sameLetters c.status "false"

/-- Whether the type is one of those that decide the phase. -/
def isRecognised (c : Condition) : Bool :=
  Milestone.all.any fun m => c.type == m.conditionType

/-- The content of a reported condition. -/
def ofReport (r : ReportedCondition) : Condition :=
  { type := r.type
    status := r.status
    reason := r.reason.getD ""
    message := r.message.getD "" }

/-- The first condition of a type. -/
def find (type : String) (conditions : List Condition) : Option Condition :=
  conditions.find? fun c => c.type == type

/-- Put a condition in the place of the first one of its type, or at the end. -/
@[simp]
def merge (new : Condition) : List Condition → List Condition
  | [] => [new]
  | c :: rest => if c.type = new.type then new :: rest else c :: merge new rest

/-- The conditions of a list of reports, one for each type. -/
def summarize (reports : List ReportedCondition) : List Condition :=
  reports.foldl (fun merged r => merge (ofReport r) merged) []

/-- With one condition for each type, each one is found by its type. -/
theorem find_of_mem {c : Condition} {conditions : List Condition}
    (h : (conditions.map Condition.type).Nodup) (hc : c ∈ conditions) :
    find c.type conditions = some c := by
  induction conditions with
  | nil => simp at hc
  | cons d rest ih =>
      simp only [List.map_cons, List.nodup_cons, List.mem_map, not_exists, not_and] at h
      rcases List.mem_cons.mp hc with rfl | hc
      · simp [find]
      · have hne : d.type ≠ c.type := fun e => h.1 c hc e.symm
        simpa [find, hne] using ih h.2 hc

/-- What was merged in is found under its type. -/
@[simp]
theorem merge_find_self (new : Condition) (conditions : List Condition) :
    find new.type (merge new conditions) = some new := by
  induction conditions with
  | nil => simp [find]
  | cons c rest ih =>
      by_cases h : c.type = new.type
      · simp [find, h]
      · simpa [find, h] using ih

/-- What is reported of another type stays as it is. -/
theorem merge_find_of_ne {type : String} (new : Condition) (conditions : List Condition)
    (h : new.type ≠ type) : find type (merge new conditions) = find type conditions := by
  induction conditions with
  | nil => simp [find, h]
  | cons c rest ih =>
      by_cases hc : c.type = new.type
      · simp [find, hc, h]
      · by_cases hct : c.type = type
        · subst hct
          simp [find, hc]
        · simpa [find, hc, hct] using ih

/-- A type that is new comes last, and the others keep their places. -/
theorem types_merge (new : Condition) (conditions : List Condition) :
    (merge new conditions).map Condition.type =
      if new.type ∈ conditions.map Condition.type then conditions.map Condition.type
      else conditions.map Condition.type ++ [new.type] := by
  induction conditions with
  | nil => simp
  | cons c rest ih =>
      by_cases h : c.type = new.type
      · simp [h]
      · simp only [merge, h, if_false, List.map_cons, ih, List.mem_cons, Ne.symm h, false_or]
        split <;> simp

end Condition
end ProvisionWatch

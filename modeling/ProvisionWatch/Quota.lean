/-!
# Quotas

How many subscriptions can be held at a time, by one caller and by all callers
together.  The total and the number of each caller are counted apart.

Main results:

- Theorem `acquire_eq_ok_iff`: a slot is given exactly when both limits leave
  room.
- Theorem `heldBy_acquire`: a slot counts once, for its caller.
-/

namespace ProvisionWatch

/-- Why no slot is left. -/
inductive CapacityError where
  | callerLimit (caller : String) (limit : Nat)
  | globalLimit (limit : Nat)
deriving DecidableEq, Repr

/-- The limits and what is in use. -/
structure Quota where
  perCallerLimit : Nat
  globalLimit : Nat
  inUse : Nat
  /-- Callers that hold slots, and how many. -/
  held : List (String × Nat)
deriving DecidableEq, Repr

namespace Quota

/-- Limits of which nothing is in use. -/
def new (perCallerLimit globalLimit : Nat) : Quota :=
  { perCallerLimit := perCallerLimit, globalLimit := globalLimit, inUse := 0, held := [] }

/-- The count of a caller in a list of counts. -/
@[simp]
def countOf (caller : String) : List (String × Nat) → Nat
  | [] => 0
  | (name, n) :: rest => if name = caller then n else countOf caller rest

/-- Count one more for a caller. -/
@[simp]
def countUp (caller : String) : List (String × Nat) → List (String × Nat)
  | [] => [(caller, 1)]
  | (name, n) :: rest =>
      if name = caller then (name, n + 1) :: rest else (name, n) :: countUp caller rest

/-- Count one less for a caller; a count of zero disappears. -/
@[simp]
def countDown (caller : String) : List (String × Nat) → List (String × Nat)
  | [] => []
  | (name, n) :: rest =>
      if name = caller then
        if n ≤ 1 then rest else (name, n - 1) :: rest
      else
        (name, n) :: countDown caller rest

/-- The number of slots that a caller holds. -/
def heldBy (q : Quota) (caller : String) : Nat :=
  countOf caller q.held

/-- Take a slot for a caller.  The limit of all callers is looked at first. -/
def acquire (q : Quota) (caller : String) : Except CapacityError Quota :=
  if q.globalLimit ≤ q.inUse then .error (.globalLimit q.globalLimit)
  else if q.perCallerLimit ≤ q.heldBy caller then .error (.callerLimit caller q.perCallerLimit)
  else .ok { q with inUse := q.inUse + 1, held := countUp caller q.held }

/-- Give back a slot of a caller. -/
def release (q : Quota) (caller : String) : Quota :=
  { q with inUse := q.inUse - 1, held := countDown caller q.held }

/-- Counting up adds one to the count of one caller. -/
@[simp, grind =]
theorem countOf_countUp (caller other : String) (counts : List (String × Nat)) :
    countOf other (countUp caller counts) =
      countOf other counts + if other = caller then 1 else 0 := by
  induction counts with
  | nil =>
      by_cases h : other = caller
      · simp [h]
      · simp [h, Ne.symm h]
  | cons p rest ih =>
      obtain ⟨name, n⟩ := p
      by_cases hc : name = caller
      · by_cases ho : name = other
        · simp [hc, ← ho]
        · simp [hc, hc ▸ ho, hc ▸ Ne.symm ho]
      · by_cases ho : name = other
        · simp [ho, ho ▸ hc]
        · simp [hc, ho, ih]

/-- A slot is given exactly when both limits leave room. -/
theorem acquire_eq_ok_iff (q : Quota) (caller : String) :
    (∃ q', q.acquire caller = .ok q') ↔
      q.inUse < q.globalLimit ∧ q.heldBy caller < q.perCallerLimit := by
  unfold acquire
  split
  · simp; omega
  · split
    · simp; omega
    · simp; omega

/-- A slot counts for the caller it was given to, and for nobody else. -/
theorem heldBy_acquire {q q' : Quota} {caller : String} (h : q.acquire caller = .ok q')
    (other : String) :
    q'.heldBy other = q.heldBy other + if other = caller then 1 else 0 := by
  unfold acquire at h
  split at h
  · contradiction
  · split at h
    · contradiction
    · cases h
      exact countOf_countUp caller other q.held

end Quota
end ProvisionWatch

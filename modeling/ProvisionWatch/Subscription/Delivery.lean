import ProvisionWatch.Subscription.Basic

/-!
# Delivery

An update is offered to the sink unless it repeats what was said last.  The
first update and terminal ones are always offered.  What the sink answers has
no influence on what is remembered.

Main results:

- Theorem `shouldOffer_iff`: when an update is offered.
- Theorem `deliver_lastSaid`: afterwards the update is what was said last,
  offered or not.
-/

namespace ProvisionWatch

/-- What became of an update. -/
inductive Delivery where
  /-- It is handed to the sink. -/
  | offered (update : Update)
  /-- It only repeats what was said. -/
  | coalesced (update : Update)
deriving DecidableEq

namespace Delivery

/-- The update itself. -/
def update : Delivery → Update
  | offered u | coalesced u => u

/-- The update, if it is handed to the sink. -/
def offered? : Delivery → Option Update
  | offered u => some u
  | coalesced _ => none

end Delivery

namespace Subscription

/-- Whether an update says anything new, or is terminal. -/
def shouldOffer (s : Subscription) (u : Update) : Bool :=
  match s.lastSaid with
  | none => true
  | some last => u.terminal || u.said != last

/-- Remember an update as the last that was said. -/
def recordSaid (s : Subscription) (u : Update) : Subscription :=
  { s with lastSaid := some u.said }

/-- Deliver an update. -/
def deliver (s : Subscription) (u : Update) : Subscription × Delivery :=
  if s.shouldOffer u then (s.recordSaid u, .offered u) else (s, .coalesced u)

/-- An update is held back exactly when it is not terminal and repeats the last one. -/
@[grind =]
theorem shouldOffer_iff (s : Subscription) (u : Update) :
    s.shouldOffer u = true ↔ u.terminal = true ∨ s.lastSaid ≠ some u.said := by
  unfold shouldOffer
  split
  · rename_i h
    simp [h]
  · rename_i last h
    rw [h, Bool.or_eq_true, bne_iff_ne, ne_comm (a := u.said)]
    simp

/-- What was said last is remembered, whether or not it was held back. -/
@[simp]
theorem deliver_lastSaid (s : Subscription) (u : Update) :
    (s.deliver u).1.lastSaid = some u.said := by
  unfold deliver
  split
  · rfl
  · grind

end Subscription
end ProvisionWatch

import Mathlib.Data.List.Nodup
import Mathlib.Data.List.Perm.Basic
import ProvisionWatch.Proofs.Quota.Balance

/-!
# Slots that come and go

Two counts are kept of one thing, and they are not changed at once.  Whoever takes a slot
is counted in total first and then as a caller, and is taken out of the total again if
he has no room as a caller.  Whoever drops a slot is taken out of the callers first
and then out of the total.  A caller is listed as soon as he asks, even in vain, and
disappears from the list with his last slot.

Still, whatever is taken and dropped, and in whatever order, both counts are those of the
slots that are alive.  So what is subtracted is always there.

Main results:

- Theorem `acquire_eq_attempt`: taking a slot step by step is taking a slot.
- Theorem `Balances.attempt`: an attempt in vain leaves the counts as they were.
- Theorem `Desk.step_accounted`: one act keeps the account of the slots.
- Theorem `Desk.slots_accounted`: so does any number of acts.
-/

namespace ProvisionWatch
namespace Quota

/-! ## Taking a slot step by step -/

/-- List a caller, if only with a count of zero. -/
def enlist (caller : String) (counts : List (String × Nat)) : List (String × Nat) :=
  if caller ∈ counts.map Prod.fst then counts else counts ++ [(caller, 0)]

/-- Try to take a slot for a caller: count it in total, then list the caller and count it for him.
If he has no room it is taken out of the total again. -/
def attempt (q : Quota) (caller : String) : Quota × Except CapacityError Unit :=
  if q.inUse < q.globalLimit then
    let reserved := { q with inUse := q.inUse + 1, held := enlist caller q.held }
    if reserved.heldBy caller < reserved.perCallerLimit then
      ({ reserved with held := countUp caller reserved.held }, .ok ())
    else
      ({ reserved with inUse := reserved.inUse - 1 },
        .error (.callerLimit caller reserved.perCallerLimit))
  else
    (q, .error (.globalLimit q.globalLimit))

theorem countOf_append_of_not_mem {caller : String} {counts : List (String × Nat)}
    (h : caller ∉ counts.map Prod.fst) (n : Nat) :
    countOf caller (counts ++ [(caller, n)]) = n := by
  induction counts with
  | nil => simp
  | cons p rest ih =>
      obtain ⟨name, m⟩ := p
      rw [List.map_cons, List.mem_cons, not_or] at h
      simp only [List.cons_append, countOf, if_neg (Ne.symm h.1)]
      exact ih h.2

theorem countOf_append_of_ne {caller other : String} (hne : other ≠ caller)
    (counts : List (String × Nat)) (n : Nat) :
    countOf other (counts ++ [(caller, n)]) = countOf other counts := by
  induction counts with
  | nil => simp [Ne.symm hne]
  | cons p rest ih =>
      obtain ⟨name, m⟩ := p
      simp only [List.cons_append, countOf, ih]

/-- Listing a caller changes no count. -/
@[simp]
theorem countOf_enlist (caller other : String) (counts : List (String × Nat)) :
    countOf other (enlist caller counts) = countOf other counts := by
  unfold enlist
  split
  · rfl
  · rename_i hnew
    by_cases hother : other = caller
    · rw [hother, countOf_append_of_not_mem hnew, countOf_eq_zero hnew]
    · exact countOf_append_of_ne hother counts 0

/-- Listing a caller still lists every name once. -/
theorem nodup_names_enlist (caller : String) {counts : List (String × Nat)}
    (hnodup : (counts.map Prod.fst).Nodup) : ((enlist caller counts).map Prod.fst).Nodup := by
  unfold enlist
  split
  · exact hnodup
  · rename_i hnew
    rw [List.map_append, List.map_singleton, ← List.concat_eq_append]
    exact hnodup.concat hnew

/-- Who is counted up is listed anyway. -/
@[simp]
theorem countUp_enlist (caller : String) (counts : List (String × Nat)) :
    countUp caller (enlist caller counts) = countUp caller counts := by
  unfold enlist
  split
  · rfl
  · rename_i hnew
    induction counts with
    | nil => simp
    | cons p rest ih =>
        obtain ⟨name, m⟩ := p
        rw [List.map_cons, List.mem_cons, not_or] at hnew
        simp only [List.cons_append, countUp, if_neg (Ne.symm hnew.1), ih hnew.2]

theorem heldBy_reserved (q : Quota) (caller other : String) :
    ({ q with inUse := q.inUse + 1, held := enlist caller q.held } : Quota).heldBy other =
      q.heldBy other :=
  countOf_enlist caller other q.held

/-- What an attempt comes to: there is no room at all, or none for the caller, or there is room. -/
theorem attempt_cases (q : Quota) (caller : String) :
    (q.globalLimit ≤ q.inUse ∧ q.attempt caller = (q, .error (.globalLimit q.globalLimit))) ∨
    (q.inUse < q.globalLimit ∧ q.perCallerLimit ≤ q.heldBy caller ∧
      q.attempt caller = ({ q with held := enlist caller q.held },
        .error (.callerLimit caller q.perCallerLimit))) ∨
    (q.inUse < q.globalLimit ∧ q.heldBy caller < q.perCallerLimit ∧
      q.attempt caller =
        ({ q with inUse := q.inUse + 1, held := countUp caller q.held }, .ok ())) := by
  rcases Nat.lt_or_ge q.inUse q.globalLimit with hglobal | hglobal
  · rcases Nat.lt_or_ge (q.heldBy caller) q.perCallerLimit with hcaller | hcaller
    · refine .inr (.inr ⟨hglobal, hcaller, ?_⟩)
      rw [attempt, if_pos hglobal]
      simp only [heldBy_reserved, if_pos hcaller, countUp_enlist]
    · refine .inr (.inl ⟨hglobal, hcaller, ?_⟩)
      rw [attempt, if_pos hglobal]
      simp only [heldBy_reserved, if_neg (Nat.not_lt.mpr hcaller), Nat.add_sub_cancel]
  · refine .inl ⟨hglobal, ?_⟩
    rw [attempt, if_neg (Nat.not_lt.mpr hglobal)]

/-- Taking a slot step by step is taking a slot. -/
theorem acquire_eq_attempt (q : Quota) (caller : String) :
    q.acquire caller = (q.attempt caller).2.map fun _ => (q.attempt caller).1 := by
  rcases q.attempt_cases caller with ⟨hfull, h⟩ | ⟨hglobal, hfull, h⟩ | ⟨hglobal, hcaller, h⟩
  · rw [h, acquire, if_pos hfull]
    rfl
  · rw [h, acquire, if_neg (Nat.not_le.mpr hglobal), if_pos hfull]
    rfl
  · rw [h, acquire, if_neg (Nat.not_le.mpr hglobal), if_neg (Nat.not_le.mpr hcaller)]
    rfl

/-- What an attempt answers: the limit of all callers comes first. -/
theorem attempt_answers (q : Quota) (caller : String) :
    ((q.attempt caller).2 = .ok () ↔
      q.inUse < q.globalLimit ∧ q.heldBy caller < q.perCallerLimit) ∧
    ((q.attempt caller).2 = .error (.globalLimit q.globalLimit) ↔ q.globalLimit ≤ q.inUse) ∧
    ((q.attempt caller).2 = .error (.callerLimit caller q.perCallerLimit) ↔
      q.inUse < q.globalLimit ∧ q.perCallerLimit ≤ q.heldBy caller) := by
  rcases q.attempt_cases caller with ⟨hfull, h⟩ | ⟨hglobal, hfull, h⟩ | ⟨hglobal, hcaller, h⟩
  · simp [h, hfull, Nat.not_lt.mpr hfull]
  · simp [h, hglobal, hfull]
  · simp [h, hglobal, hcaller]

/-- An attempt in vain leaves every count as it was. -/
theorem attempt_in_vain {q : Quota} {caller : String} (hvain : (q.attempt caller).2 ≠ .ok ()) :
    (q.attempt caller).1.inUse = q.inUse ∧
      ∀ other, (q.attempt caller).1.heldBy other = q.heldBy other := by
  rcases q.attempt_cases caller with ⟨-, h⟩ | ⟨-, -, h⟩ | ⟨-, -, h⟩
  · rw [h]
    exact ⟨rfl, fun _ => rfl⟩
  · rw [h]
    exact ⟨rfl, fun other => countOf_enlist caller other q.held⟩
  · rw [h] at hvain
    exact absurd rfl hvain

theorem limits_attempt (q : Quota) (caller : String) :
    (q.attempt caller).1.globalLimit = q.globalLimit ∧
      (q.attempt caller).1.perCallerLimit = q.perCallerLimit := by
  rcases q.attempt_cases caller with ⟨-, h⟩ | ⟨-, -, h⟩ | ⟨-, -, h⟩ <;>
    exact h ▸ ⟨rfl, rfl⟩

/-- A quota whose counts are the same accounts for the same slots. -/
theorem Balances.enlist {q : Quota} {holders : List String} (hq : q.Balances holders)
    (caller : String) : ({ q with held := enlist caller q.held } : Quota).Balances holders := by
  have hheld : ∀ other, countOf other (Quota.enlist caller q.held) = q.heldBy other :=
    fun other => countOf_enlist caller other q.held
  refine ⟨nodup_names_enlist caller hq.names_nodup, hq.inUse_eq, fun other => ?_, hq.inUse_le,
    fun other => ?_⟩
  · exact (hheld other).trans (hq.heldBy_eq other)
  · exact Nat.le_trans (Nat.le_of_eq (hheld other)) (hq.heldBy_le other)

/-- Whatever comes of an attempt, the quota accounts for the slots that are taken then. -/
theorem Balances.attempt {q : Quota} {holders : List String} (hq : q.Balances holders)
    (caller : String) :
    (q.attempt caller).1.Balances
      (if (q.attempt caller).2 = .ok () then caller :: holders else holders) := by
  rcases q.attempt_cases caller with ⟨-, h⟩ | ⟨-, -, h⟩ | ⟨-, -, h⟩
  · rw [h]
    exact hq
  · rw [h]
    exact hq.enlist caller
  · have hacquire : q.acquire caller = .ok (q.attempt caller).1 := by
      rw [acquire_eq_attempt, h]
      rfl
    rw [h] at hacquire ⊢
    exact hq.acquire hacquire

/-- A slot that is dropped is taken out of the total and out of the count of its caller, and both
had it. -/
theorem Balances.exact_release {q : Quota} {holders : List String} (hq : q.Balances holders)
    {caller : String} (hmem : caller ∈ holders) :
    (q.release caller).inUse + 1 = q.inUse ∧
      ∀ other, (q.release caller).heldBy other + (if other = caller then 1 else 0) =
        q.heldBy other := by
  have hreleased := hq.release hmem
  refine ⟨?_, fun other => ?_⟩
  · have hpos := List.length_pos_of_mem hmem
    rw [hreleased.inUse_eq, hq.inUse_eq, List.length_erase_of_mem hmem]
    omega
  · rw [hreleased.heldBy_eq, hq.heldBy_eq, List.count_erase]
    by_cases hother : other = caller
    · have hpos := List.count_pos_iff.mpr hmem
      simp only [hother, beq_self_eq_true, if_true]
      omega
    · simp [hother, Ne.symm hother]

/-! ## Taking and dropping -/

/-- What is done to a quota: a slot is taken for a caller, or the slot at some place among those
that are alive is dropped. -/
inductive Act where
  | take (caller : String)
  | drop (place : Nat)
deriving DecidableEq, Repr

/-- A quota, and the callers of the slots that are alive, the one taken first in front. -/
structure Desk where
  quota : Quota
  alive : List String
deriving DecidableEq, Repr

namespace Desk

/-- Limits, and no slot is alive. -/
def new (perCallerLimit globalLimit : Nat) : Desk :=
  { quota := .new perCallerLimit globalLimit, alive := [] }

/-- Take a slot, or drop one if there is one at this place. -/
def step (d : Desk) : Act → Desk
  | .take caller =>
      match d.quota.attempt caller with
      | (quota, .ok ()) => { quota := quota, alive := d.alive ++ [caller] }
      | (quota, .error _) => { d with quota := quota }
  | .drop place =>
      match d.alive[place]? with
      | some caller =>
          { quota := d.quota.release caller, alive := d.alive.eraseIdx place }
      | none => d

/-- Take and drop slots in order. -/
def run (d : Desk) (acts : List Act) : Desk :=
  acts.foldl step d

/-- The quota has these limits and accounts for the slots that are alive. -/
structure Accounted (perCallerLimit globalLimit : Nat) (d : Desk) : Prop where
  perCallerLimit : d.quota.perCallerLimit = perCallerLimit
  globalLimit : d.quota.globalLimit = globalLimit
  balances : d.quota.Balances d.alive

theorem accounted_new (perCallerLimit globalLimit : Nat) :
    (new perCallerLimit globalLimit).Accounted perCallerLimit globalLimit where
  perCallerLimit := rfl
  globalLimit := rfl
  balances := balances_new perCallerLimit globalLimit

variable {perCallerLimit globalLimit : Nat} {d : Desk}

/-- One act keeps the account. -/
theorem step_accounted (h : d.Accounted perCallerLimit globalLimit) (a : Act) :
    (d.step a).Accounted perCallerLimit globalLimit := by
  cases a with
  | take caller =>
      have hbalances := h.balances.attempt caller
      obtain ⟨hglobal, hcaller⟩ := d.quota.limits_attempt caller
      rcases hattempt : d.quota.attempt caller with ⟨quota, answer⟩
      rw [hattempt] at hbalances hglobal hcaller
      cases answer with
      | ok =>
          simp only [step, hattempt]
          exact ⟨hcaller.trans h.perCallerLimit, hglobal.trans h.globalLimit,
            hbalances.perm (List.perm_append_singleton caller d.alive)⟩
      | error e =>
          simp only [step, hattempt]
          exact ⟨hcaller.trans h.perCallerLimit, hglobal.trans h.globalLimit, hbalances⟩
  | drop place =>
      cases hplace : d.alive[place]? with
      | none =>
          simp only [step, hplace]
          exact h
      | some caller =>
          simp only [step, hplace]
          obtain ⟨hlt, hcaller⟩ := List.getElem?_eq_some_iff.mp hplace
          have hmem : caller ∈ d.alive := List.mem_of_getElem? hplace
          have hperm : (d.alive.eraseIdx place).Perm (d.alive.erase caller) := by
            have hcons := (List.getElem_cons_eraseIdx_perm hlt).trans
              (List.perm_cons_erase hmem)
            rw [hcaller] at hcons
            exact (List.perm_cons caller).mp hcons
          exact ⟨h.perCallerLimit, h.globalLimit, (h.balances.release hmem).perm hperm⟩

/-- Any number of acts keeps the account. -/
theorem run_accounted (h : d.Accounted perCallerLimit globalLimit) (acts : List Act) :
    (d.run acts).Accounted perCallerLimit globalLimit := by
  induction acts generalizing d with
  | nil => exact h
  | cons a rest ih => exact ih (step_accounted h a)

/-- Whatever is taken and dropped, and in whatever order, the counts are those of the slots that
are alive, within their limits.  Dropping any of these slots takes exactly one out of the total
and out of the count of its caller, so nothing is ever subtracted from zero.  A slot is given
exactly if both limits leave room, the limit of all callers is reported whenever it leaves none,
and an attempt in vain leaves every count as it was. -/
theorem slots_accounted (perCallerLimit globalLimit : Nat) (acts : List Act) :
    let d := (new perCallerLimit globalLimit).run acts
    (d.quota.inUse = d.alive.length ∧ ∀ c, d.quota.heldBy c = d.alive.count c) ∧
    (d.quota.inUse ≤ globalLimit ∧ ∀ c, d.quota.heldBy c ≤ perCallerLimit) ∧
    (∀ c ∈ d.alive, (d.quota.release c).inUse + 1 = d.quota.inUse ∧
      ∀ other, (d.quota.release c).heldBy other + (if other = c then 1 else 0) =
        d.quota.heldBy other) ∧
    ∀ c, ((d.quota.attempt c).2 = .ok () ↔
        d.quota.inUse < globalLimit ∧ d.quota.heldBy c < perCallerLimit) ∧
      ((d.quota.attempt c).2 = .error (.globalLimit globalLimit) ↔
        globalLimit ≤ d.quota.inUse) ∧
      ((d.quota.attempt c).2 = .error (.callerLimit c perCallerLimit) ↔
        d.quota.inUse < globalLimit ∧ perCallerLimit ≤ d.quota.heldBy c) ∧
      ((d.quota.attempt c).2 ≠ .ok () → (d.quota.attempt c).1.inUse = d.quota.inUse ∧
        ∀ other, (d.quota.attempt c).1.heldBy other = d.quota.heldBy other) ∧
      d.quota.acquire c = (d.quota.attempt c).2.map fun _ => (d.quota.attempt c).1 := by
  intro d
  have h : d.Accounted perCallerLimit globalLimit :=
    run_accounted (accounted_new perCallerLimit globalLimit) acts
  have hinUse := h.balances.inUse_le
  have hheldBy := h.balances.heldBy_le
  rw [h.globalLimit] at hinUse
  rw [h.perCallerLimit] at hheldBy
  refine ⟨⟨h.balances.inUse_eq, h.balances.heldBy_eq⟩, ⟨hinUse, hheldBy⟩,
    fun c hc => h.balances.exact_release hc, fun c => ?_⟩
  have hanswers := d.quota.attempt_answers c
  rw [h.globalLimit, h.perCallerLimit] at hanswers
  exact ⟨hanswers.1, hanswers.2.1, hanswers.2.2, attempt_in_vain, acquire_eq_attempt _ c⟩

/-- One slot for each caller.  The second try of `ui` is in vain.  Once the slot that was taken
first is dropped, `ui` has room again, and `cli` has none. -/
theorem slots_accounted_of_dropped_first :
    let d := (new 1 2).run [.take "ui", .take "ui", .take "cli", .drop 0]
    d.alive = ["cli"] ∧ d.quota.inUse = 1 ∧
      (d.quota.release "cli").inUse + 1 = d.quota.inUse ∧
      (d.quota.attempt "ui").2 = .ok () ∧
      (d.quota.attempt "cli").2 = .error (.callerLimit "cli" 1) ∧
      (d.quota.attempt "cli").1.inUse = d.quota.inUse := by
  intro d
  have halive : d.alive = ["cli"] := by
    decide
  obtain ⟨⟨hinUse, hheldBy⟩, -, hdrop, hattempt⟩ :=
    slots_accounted 1 2 [.take "ui", .take "ui", .take "cli", .drop 0]
  have hone : d.quota.inUse = 1 := by
    rw [hinUse]
    exact congrArg List.length halive
  have hui : d.quota.heldBy "ui" = 0 := (hheldBy "ui").trans (by rw [halive]; decide)
  have hcli : d.quota.heldBy "cli" = 1 := (hheldBy "cli").trans (by rw [halive]; decide)
  have hvain := (hattempt "cli").2.2.1.mpr ⟨by rw [hone]; decide, Nat.le_of_eq hcli.symm⟩
  refine ⟨halive, hone, (hdrop "cli" (by rw [halive]; decide)).1, ?_, hvain, ?_⟩
  · exact (hattempt "ui").1.mpr ⟨by rw [hone]; decide, by rw [hui]; decide⟩
  · exact ((hattempt "cli").2.2.2.1 (by rw [hvain]; exact nofun)).1

end Desk
end Quota
end ProvisionWatch

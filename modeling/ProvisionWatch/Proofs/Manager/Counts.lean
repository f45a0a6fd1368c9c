import ProvisionWatch.Manager.Counting
import ProvisionWatch.Proofs.Subscription.Coalescing

/-!
# What the metrics tell

Each update that is produced has one fate, and each call to subscribe that returns
has one outcome.  What was counted from nothing tells how many there were of each
kind, and how many subscriptions opened and were closed.

Main results:

- Theorem `record_adds`: what one occurrence adds to the counts.
- Theorem `recordAll_tells`: what the metrics tell after any occurrences.
-/

namespace ProvisionWatch

/-! ## What is told -/

namespace Occurrence

/-- What became of an update, if one was produced. -/
def fate? : Occurrence → Option Fate
  | delivered _ _ _ fate => some fate
  | asked _ | returned _ _ | opened _ | watchError _ _ _ | stalled _ | closed _ _ => none

/-- How a call to subscribe came out, if one returned. -/
def outcome? : Occurrence → Option (Except MonitorError SubscribeOutcome)
  | returned _ (.subscribed outcome) => some outcome
  | returned _ .brokeDown | returned _ .stopped | returned _ (.state _) => none
  | asked _ | opened _ | delivered _ _ _ _ | watchError _ _ _ | stalled _ | closed _ _ => none

/-- A subscription opened. -/
def isOpened : Occurrence → Bool
  | opened _ => true
  | asked _ | returned _ _ | delivered _ _ _ _ | watchError _ _ _ | stalled _ | closed _ _ => false

/-- A subscription was closed. -/
def isClosed : Occurrence → Bool
  | closed _ _ => true
  | asked _ | returned _ _ | opened _ | delivered _ _ _ _ | watchError _ _ _ | stalled _ => false

/-- A stall was found. -/
def isStalled : Occurrence → Bool
  | stalled _ => true
  | asked _ | returned _ _ | opened _ | delivered _ _ _ _ | watchError _ _ _ | closed _ _ => false

end Occurrence

/-- The fates of the updates that were produced, in order. -/
def fates (occurred : List Occurrence) : List Fate :=
  occurred.filterMap Occurrence.fate?

/-- The outcomes of the calls to subscribe that returned, in order. -/
def outcomes (occurred : List Occurrence) : List (Except MonitorError SubscribeOutcome) :=
  occurred.filterMap Occurrence.outcome?

@[simp]
theorem fates_append (occurred later : List Occurrence) :
    fates (occurred ++ later) = fates occurred ++ fates later :=
  List.filterMap_append

@[simp]
theorem outcomes_append (occurred later : List Occurrence) :
    outcomes (occurred ++ later) = outcomes occurred ++ outcomes later :=
  List.filterMap_append

/-- A call to subscribe starts a subscription, finds one, or is refused. -/
theorem length_outcomes (results : List (Except MonitorError SubscribeOutcome)) :
    results.length = results.count (.ok .started) + results.count (.ok .alreadyActive) +
      results.countP fun r => !r.isOk := by
  induction results with
  | nil => rfl
  | cons r rest ih =>
      rw [List.length_cons, List.count_cons, List.count_cons, List.countP_cons, ih]
      rcases r with e | _ | _
      · simp +arith [Except.isOk, Except.toBool]
      · simp +arith [Except.isOk, Except.toBool]
      · simp +arith [Except.isOk, Except.toBool]

/-! ## Counting -/

namespace Metrics

/-- A count that grows with each occurrence that passes a test has counted those that pass. -/
theorem recordAll_countP (measure : Metrics → Nat) (test : Occurrence → Bool)
    (h : ∀ counts o, measure (record counts o) = measure counts + if test o then 1 else 0)
    (counts : Metrics) (occurred : List Occurrence) :
    measure (counts.recordAll occurred) = measure counts + occurred.countP test := by
  induction occurred generalizing counts with
  | nil => rfl
  | cons o rest ih =>
      rw [show counts.recordAll (o :: rest) = (counts.record o).recordAll rest from rfl, ih, h,
        List.countP_cons]
      omega

/-- How many updates were accounted for. -/
def produced (m : Metrics) : Nat :=
  m.published.total + m.coalesced + m.publishFailures

/-- What an occurrence adds to the counts; who streams has opened and is not closed. -/
structure Adds (before : Metrics) (o : Occurrence) (after : Metrics) : Prop where
  produced : after.produced = before.produced + if o.fate?.isSome then 1 else 0
  published : after.published.total =
    before.published.total + if o.fate? == some .published then 1 else 0
  rejected : after.rejected.total =
    before.rejected.total + if (o.outcome?.map fun r => !r.isOk).getD false then 1 else 0
  opened : after.opened = before.opened + if o.isOpened then 1 else 0
  closed : after.closed.total = before.closed.total + if o.isClosed then 1 else 0
  stalls : after.stalls = before.stalls + if o.isStalled then 1 else 0
  active : (after.opened : Int) - after.active - after.closed.total =
    before.opened - before.active - before.closed.total

theorem record_adds (counts : Metrics) (o : Occurrence) : counts.Adds o (counts.record o) := by
  cases o with
  | delivered sink target u fate =>
      cases fate with
      | published =>
          have hmore : (counts.published.add [u.phase.text]).total = counts.published.total + 1 :=
            Tally.total_add _ _
          refine ⟨?_, hmore, rfl, rfl, rfl, rfl, rfl⟩
          show (counts.published.add _).total + counts.coalesced + counts.publishFailures =
            counts.published.total + counts.coalesced + counts.publishFailures + 1
          omega
      | refused e => exact ⟨rfl, rfl, rfl, rfl, rfl, rfl, rfl⟩
      | coalesced =>
          refine ⟨?_, rfl, rfl, rfl, rfl, rfl, rfl⟩
          show counts.published.total + (counts.coalesced + 1) + counts.publishFailures =
            counts.published.total + counts.coalesced + counts.publishFailures + 1
          omega
  | returned call result =>
      cases result with
      | subscribed outcome =>
          cases outcome with
          | error e => exact ⟨rfl, rfl, Tally.total_add _ _, rfl, rfl, rfl, rfl⟩
          | ok => exact ⟨rfl, rfl, rfl, rfl, rfl, rfl, rfl⟩
      | brokeDown | stopped | state => exact ⟨rfl, rfl, rfl, rfl, rfl, rfl, rfl⟩
  | opened target =>
      refine ⟨rfl, rfl, rfl, rfl, rfl, rfl, ?_⟩
      show ((counts.opened + 1 : Nat) : Int) - (counts.active + 1) - counts.closed.total =
        counts.opened - counts.active - counts.closed.total
      omega
  | closed target ending =>
      have hmore : (counts.closed.add [ending.text]).total = counts.closed.total + 1 :=
        Tally.total_add _ _
      refine ⟨rfl, rfl, rfl, rfl, hmore, rfl, ?_⟩
      show (counts.opened : Int) - (counts.active - 1) - (counts.closed.add _).total =
        counts.opened - counts.active - counts.closed.total
      omega
  | asked | watchError | stalled => exact ⟨rfl, rfl, rfl, rfl, rfl, rfl, rfl⟩

/-- Who streams has opened and is not closed, whatever occurs. -/
theorem active_recordAll (counts : Metrics) (occurred : List Occurrence) :
    ((counts.recordAll occurred).opened : Int) - (counts.recordAll occurred).active -
        (counts.recordAll occurred).closed.total =
      counts.opened - counts.active - counts.closed.total := by
  induction occurred generalizing counts with
  | nil => rfl
  | cons o rest ih => exact (ih (counts.record o)).trans (record_adds counts o).active

/-- What the metrics tell that were counted from nothing. -/
structure Tells (counts : Metrics) (occurred : List Occurrence) : Prop where
  produced : counts.produced = (fates occurred).length
  published : counts.published.total = (fates occurred).count .published
  rejected : counts.rejected.total = (outcomes occurred).countP fun r => !r.isOk
  opened : counts.opened = occurred.countP Occurrence.isOpened
  closed : counts.closed.total = occurred.countP Occurrence.isClosed
  active : (counts.opened : Int) = counts.active + counts.closed.total

theorem recordAll_tells (occurred : List Occurrence) :
    (zero.recordAll occurred).Tells occurred where
  produced := by
    rw [fates, List.length_filterMap_eq_countP,
      recordAll_countP produced _ fun counts o => (record_adds counts o).produced]
    exact Nat.zero_add _
  published := by
    rw [fates, List.count_filterMap,
      recordAll_countP (fun m => m.published.total) _ fun counts o =>
        (record_adds counts o).published]
    exact Nat.zero_add _
  rejected := by
    rw [outcomes, List.countP_filterMap,
      recordAll_countP (fun m => m.rejected.total) _ fun counts o =>
        (record_adds counts o).rejected]
    exact Nat.zero_add _
  opened := by
    rw [recordAll_countP opened _ fun counts o => (record_adds counts o).opened]
    exact Nat.zero_add _
  closed := by
    rw [recordAll_countP (fun m => m.closed.total) _ fun counts o =>
      (record_adds counts o).closed]
    exact Nat.zero_add _
  active := by
    have hactive := active_recordAll zero occurred
    have hnothing : (zero.opened : Int) - zero.active - zero.closed.total = 0 := rfl
    omega

end Metrics
end ProvisionWatch

import ProvisionWatch.Text.Decimal
import ProvisionWatch.Text.Split

/-!
# Metrics

What is counted: subscriptions, updates and the troubles of watches.  Counts
with labels are kept by the values of their labels run together: label values
that give the same text are one count, which keeps the values it was started
with.

The text form lists the families by name.  A family without labels is always
listed; one with labels is listed with its first count, its counts in the order
of their label values.

Main results:

- Theorem `count_add_self` and `count_add_of_ne`: counting once adds one to one
  count.
- Theorem `count_eq_of_join_eq`: only the text that label values give counts.
-/

namespace ProvisionWatch

/-! ## Counts with labels -/

/-- Counts by the values of some labels. -/
abbrev Tally := List (List String × Nat)

namespace Tally

/-- Whether label values are counted together. -/
def together (a b : List String) : Bool :=
  String.join a == String.join b

/-- The count for some label values. -/
@[simp]
def count (values : List String) : Tally → Nat
  | [] => 0
  | (key, n) :: rest => if together key values then n else count values rest

/-- Count once more for some label values. -/
@[simp]
def add (values : List String) : Tally → Tally
  | [] => [(values, 1)]
  | (key, n) :: rest =>
      if together key values then (key, n + 1) :: rest else (key, n) :: add values rest

/-- Label values are counted together with themselves. -/
@[simp]
theorem together_self (values : List String) : together values values = true := by
  simp [together]

/-- Label values that give the same text have the same count. -/
theorem count_eq_of_join_eq {a b : List String} (h : String.join a = String.join b) (t : Tally) :
    count a t = count b t := by
  induction t with
  | nil => rfl
  | cons p rest ih => simp [together, h, ih]

/-- Counting once adds one to the count. -/
@[simp]
theorem count_add_self (values : List String) (t : Tally) :
    count values (add values t) = count values t + 1 := by
  induction t with
  | nil => simp
  | cons p rest ih =>
      obtain ⟨key, n⟩ := p
      by_cases h : together key values = true
      · simp [h]
      · simpa [h] using ih

/-- Counting once leaves the counts of other label values alone. -/
theorem count_add_of_ne {values other : List String} (h : together other values = false)
    (t : Tally) : count other (add values t) = count other t := by
  have hne : ¬ String.join other = String.join values := by simpa [together] using h
  induction t with
  | nil =>
      have h' : together values other = false := by
        simpa [together] using fun he => hne he.symm
      simp [h']
  | cons p rest ih =>
      obtain ⟨key, n⟩ := p
      by_cases hk : together key values = true
      · have hko : together key other = false := by
          have he : String.join key = String.join values := by simpa [together] using hk
          simpa [together, he] using fun hv => hne hv.symm
        simp [hk, hko]
      · simp [hk, ih]

/-- Label values in order: the first that differ decide. -/
def noLater : List String → List String → Bool
  | [], _ => true
  | _ :: _, [] => false
  | a :: as, b :: bs => a < b || (a == b && noLater as bs)

end Tally

/-! ## Metrics -/

/-- Everything that is counted. -/
structure Metrics where
  /-- Subscriptions that are streaming. -/
  active : Int
  opened : Nat
  /-- Refused calls, by reason. -/
  rejected : Tally
  /-- Ended subscriptions, by reason. -/
  closed : Tally
  /-- Updates the sink took, by phase. -/
  published : Tally
  coalesced : Nat
  publishFailures : Nat
  /-- Errors of watches, by stream and kind. -/
  watchErrors : Tally
  stalls : Nat
deriving DecidableEq, Repr

namespace Metrics

/-- Nothing was counted yet. -/
def zero : Metrics :=
  { active := 0, opened := 0, rejected := [], closed := [], published := [], coalesced := 0,
    publishFailures := 0, watchErrors := [], stalls := 0 }

/-- A subscription starts to stream. -/
def countOpened (m : Metrics) : Metrics :=
  { m with opened := m.opened + 1, active := m.active + 1 }

/-- A subscription ends. -/
def countClosed (m : Metrics) (reason : String) : Metrics :=
  { m with closed := m.closed.add [reason], active := m.active - 1 }

/-- A call is refused. -/
def countRejected (m : Metrics) (reason : String) : Metrics :=
  { m with rejected := m.rejected.add [reason] }

/-- The sink takes an update. -/
def countPublished (m : Metrics) (phase : String) : Metrics :=
  { m with published := m.published.add [phase] }

/-- An update only repeats the last one. -/
def countCoalesced (m : Metrics) : Metrics :=
  { m with coalesced := m.coalesced + 1 }

/-- The sink refuses an update. -/
def countPublishFailure (m : Metrics) : Metrics :=
  { m with publishFailures := m.publishFailures + 1 }

/-- A watch has an error. -/
def countWatchError (m : Metrics) (stream kind : String) : Metrics :=
  { m with watchErrors := m.watchErrors.add [stream, kind] }

/-- A subscription stalls. -/
def countStall (m : Metrics) : Metrics :=
  { m with stalls := m.stalls + 1 }

end Metrics

/-! ## Text form -/

/-- One number of a family. -/
structure Sample where
  /-- Names and values of the labels. -/
  labels : List (String × String)
  value : Int
deriving DecidableEq, Repr

/-- The numbers that share a name. -/
structure Family where
  /-- The name behind the stem that all names share. -/
  name : String
  help : String
  isGauge : Bool
  samples : List Sample
deriving DecidableEq, Repr

/-- A character of a label value as it is written. -/
def escapeLabelChar (c : Char) : List Char :=
  if c = '\\' then ['\\', '\\']
  else if c = '\n' then ['\\', 'n']
  else if c = '"' then ['\\', '"']
  else [c]

/-- A label value as it is written. -/
def escapeLabel (s : String) : String :=
  String.ofList (s.toList.flatMap escapeLabelChar)

/-- The labels as they are written behind the name. -/
def labelsText (labels : List (String × String)) : String :=
  if labels.isEmpty then ""
  else
    let parts := labels.map fun (name, value) => name ++ "=\"" ++ escapeLabel value ++ "\""
    "\x7b" ++ String.intercalate "," parts ++ "\x7d"

namespace Family

/-- What all names begin with. -/
def stem : String := "cluster_progress_"

/-- The name of a number behind the stem, with its labels. -/
def sampleName (f : Family) (s : Sample) : String :=
  f.name ++ labelsText s.labels

/-- The line of a number. -/
def sampleLine (f : Family) (s : Sample) : String :=
  stem ++ f.sampleName s ++ " " ++ Text.intText s.value ++ "\n"

/-- The text form of a family; none if it has no numbers. -/
def text (f : Family) : String :=
  if f.samples.isEmpty then ""
  else
    let kind := if f.isGauge then "gauge" else "counter"
    "# HELP " ++ stem ++ f.name ++ " " ++ f.help ++ "\n# TYPE " ++ stem ++ f.name ++ " " ++ kind ++
      "\n" ++ String.join (f.samples.map f.sampleLine)

end Family

namespace Metrics

/-- A family with one number and no labels. -/
def plain (name help : String) (isGauge : Bool) (value : Int) : Family :=
  { name := name, help := help, isGauge := isGauge,
    samples := [{ labels := [], value := value }] }

/-- The number of a count, with its labels by name. -/
def sample (names : List String) (c : List String × Nat) : Sample :=
  { labels := (names.zip c.1).mergeSort fun a b => Tally.noLater [a.1] [b.1], value := c.2 }

/-- A family of counts with labels, in the order of the label values. -/
def labelled (name help : String) (labels : List String) (t : Tally) : Family :=
  let samples := t.map (sample labels)
  { name := name, help := help, isGauge := false,
    samples := samples.mergeSort fun a b =>
      Tally.noLater (a.labels.map Prod.snd) (b.labels.map Prod.snd) }

/-- The families, by name. -/
def families (m : Metrics) : List Family :=
  [ plain "active_subscriptions" "Current number of streaming subscriptions" true m.active,
    plain "publish_failures_total" "Total number of updates the sink refused" false
      m.publishFailures,
    plain "stalls_detected_total"
      "Total number of subscriptions whose conditions stopped changing" false m.stalls,
    labelled "subscriptions_closed_total" "Total number of subscriptions that stopped streaming"
      ["reason"] m.closed,
    plain "subscriptions_opened_total" "Total number of subscriptions that started streaming" false
      m.opened,
    labelled "subscriptions_rejected_total" "Total number of rejected subscribe calls" ["reason"]
      m.rejected,
    plain "updates_coalesced_total"
      "Total number of updates dropped as duplicates of the last published one" false m.coalesced,
    labelled "updates_published_total" "Total number of progress updates handed to the sink"
      ["phase"] m.published,
    labelled "watch_errors_total" "Total number of watch stream errors" ["stream", "kind"]
      m.watchErrors ]

/-- The text form of all that is counted. -/
def text (m : Metrics) : String :=
  String.join (m.families.map Family.text)

/-- All numbers with their names behind the stem. -/
def numbers (m : Metrics) : List (String × Int) :=
  m.families.flatMap fun f => f.samples.map fun s => (f.sampleName s, s.value)

/-- By how much the numbers have changed that have changed. -/
def changes (before after : Metrics) : List (String × Int) :=
  after.numbers.filterMap fun (name, n) =>
    let change := n - (before.numbers.lookup name).getD 0
    if change = 0 then none else some (name, change)

end Metrics

/-! ## Registration -/

/-- What is counted, and whether it is shown yet. -/
structure MetricsRegistry where
  metrics : Metrics
  registered : Bool
deriving DecidableEq, Repr

namespace MetricsRegistry

/-- Nothing is counted and nothing is shown. -/
def empty : MetricsRegistry :=
  { metrics := .zero, registered := false }

/-- Show what is counted from now on. -/
def register (r : MetricsRegistry) : MetricsRegistry :=
  { r with registered := true }

/-- What is shown. -/
def text (r : MetricsRegistry) : String :=
  if r.registered then r.metrics.text else ""

end MetricsRegistry
end ProvisionWatch

import Mathlib.Data.List.Induction
import ProvisionWatch.Proofs.Classification.Relevance

/-!
# The last report of a type

A deployment may report the same condition type more than once.  Its reports are merged one
after the other, and each changes the list that the next one is merged into: it takes the
place of the condition of its type, or comes at the end.  What it comes to is that a type
has the place of its first report and the content of its last one, and this leaves just one
list.  So reports that were overtaken by later ones can be left out: the conditions may
change their places, but what is made of them stays the same.

Main results:

- Theorem `summarize_eq_iff`: first reports give the places and last ones the contents.
- Theorem `summarize_append`: two parts are summed up by merging their summaries.
- Theorem `condition?_snapshot`: a snapshot has the last report of each type.
- Theorem `last_report_counts`: all that, and that overtaken reports make no difference.
-/

namespace ProvisionWatch

/-! ## Reports by their types -/

namespace ReportedCondition

/-- The last report of a type: the first one that is met from the end. -/
def last? (type : String) (reports : List ReportedCondition) : Option ReportedCondition :=
  reports.reverse.find? fun r => r.type == type

/-- How many reports come before the first one of a type. -/
def firstPlace (type : String) (reports : List ReportedCondition) : Nat :=
  (reports.map ReportedCondition.type).idxOf type

variable {type : String} {reports : List ReportedCondition}

theorem last?_eq_none_iff :
    last? type reports = none ↔ type ∉ reports.map ReportedCondition.type := by
  simp [last?]

theorem last?_concat (type : String) (reports : List ReportedCondition) (r : ReportedCondition) :
    last? type (reports ++ [r]) = if r.type = type then some r else last? type reports := by
  by_cases h : r.type = type <;> simp [last?, h]

theorem last?_append_cons (type : String) (before after : List ReportedCondition)
    (r : ReportedCondition) :
    last? type (before ++ r :: after) =
      (last? type after).or (if r.type = type then some r else last? type before) := by
  by_cases h : r.type = type <;> simp [last?, h]

/-- Reports of another type can be left out. -/
theorem last?_filter_ne {other : String} (h : other ≠ type) (reports : List ReportedCondition) :
    last? type (reports.filter fun e => e.type != other) = last? type reports := by
  induction reports using List.reverseRecOn with
  | nil => rfl
  | append_singleton reports r ih =>
      rw [List.filter_append, last?_concat]
      by_cases hr : r.type = other
      · have hne : r.type ≠ type := fun e => h (hr.symm.trans e)
        rw [if_neg hne, ← ih]
        simp [hr]
      · have hkept : [r].filter (fun e => e.type != other) = [r] := by
          simp [hr]
        rw [hkept, last?_concat, ih]

/-- Where a report is of the same type as earlier ones, these can be left out. -/
theorem last?_drop_overtaken (type : String) (before after : List ReportedCondition)
    (r : ReportedCondition) :
    last? type (before.filter (fun e => e.type != r.type) ++ r :: after) =
      last? type (before ++ r :: after) := by
  rw [last?_append_cons, last?_append_cons]
  by_cases h : r.type = type
  · rw [if_pos h, if_pos h]
  · rw [if_neg h, if_neg h, last?_filter_ne h]

theorem firstPlace_lt (h : type ∈ reports.map ReportedCondition.type) :
    firstPlace type reports < reports.length := by
  simpa [firstPlace] using List.idxOf_lt_length_of_mem h

/-- A type that was reported before keeps its first place. -/
theorem firstPlace_concat (h : type ∈ reports.map ReportedCondition.type)
    (r : ReportedCondition) : firstPlace type (reports ++ [r]) = firstPlace type reports := by
  rw [firstPlace, List.map_append, List.idxOf_append_of_mem h, firstPlace]

/-- A type that was not reported before gets the last place. -/
theorem firstPlace_concat_self {r : ReportedCondition}
    (h : r.type ∉ reports.map ReportedCondition.type) :
    firstPlace r.type (reports ++ [r]) = reports.length := by
  rw [firstPlace, List.map_append, List.idxOf_append_of_notMem h]
  simp

end ReportedCondition

/-! ## Summing up -/

namespace Condition

open ReportedCondition

/-- A condition says what a report says, where a reason or message that is missing is empty. -/
structure Tells (c : Condition) (r : ReportedCondition) : Prop where
  type : c.type = r.type
  status : c.status = r.status
  reason : c.reason = r.reason.getD ""
  message : c.message = r.message.getD ""

/-- Conditions sum up reports: each reported type is there once, in the order of the first reports
and with the contents of the last ones. -/
structure SumUp (conditions : List Condition) (reports : List ReportedCondition) : Prop where
  distinct : Distinct conditions
  types : ∀ type, type ∈ conditions.map Condition.type ↔
    type ∈ reports.map ReportedCondition.type
  order : conditions.Pairwise fun c d => firstPlace c.type reports < firstPlace d.type reports
  contents : ∀ c ∈ conditions, ∃ r, last? c.type reports = some r ∧ c.Tells r

variable {c d : Condition} {r : ReportedCondition} {conditions other : List Condition}
  {reports : List ReportedCondition}

theorem tells_iff : c.Tells r ↔ c = ofReport r := by
  constructor
  · rintro ⟨htype, hstatus, hreason, hmessage⟩
    cases c
    simp_all only [ofReport]
  · rintro rfl
    exact ⟨rfl, rfl, rfl, rfl⟩

theorem find_eq_none_iff {type : String} :
    find type conditions = none ↔ type ∉ conditions.map Condition.type := by
  simp [find]

/-- There is no other way of summing up. -/
theorem SumUp.unique (h : SumUp conditions reports) (h' : SumUp other reports) :
    conditions = other := by
  have hsub : ∀ {a b}, SumUp a reports → SumUp b reports → ∀ c ∈ a, c ∈ b := by
    intro a b ha hb c hc
    have htypes : c.type ∈ b.map Condition.type :=
      (hb.types c.type).mpr ((ha.types c.type).mp (List.mem_map_of_mem hc))
    obtain ⟨d, hd, htype⟩ := List.mem_map.mp htypes
    obtain ⟨r, hlast, htells⟩ := ha.contents c hc
    obtain ⟨r', hlast', htells'⟩ := hb.contents d hd
    rw [htype] at hlast'
    obtain rfl := Option.some.inj (hlast.symm.trans hlast')
    rwa [tells_iff.mp htells, ← tells_iff.mp htells']
  have hperm : conditions.Perm other :=
    (List.perm_ext_iff_of_nodup h.distinct.of_map h'.distinct.of_map).mpr
      fun c => ⟨hsub h h' c, hsub h' h c⟩
  exact hperm.eq_of_pairwise (fun _ _ _ _ hab hba => absurd hab (Nat.lt_asymm hba))
    h.order h'.order

/-! ## Merging one report after the other -/

theorem summarize_concat (reports : List ReportedCondition) (r : ReportedCondition) :
    summarize (reports ++ [r]) = merge (ofReport r) (summarize reports) := by
  rw [summarize, List.foldl_append]
  rfl

/-- What is found of a type is what its last report says. -/
@[simp]
theorem find_summarize (type : String) (reports : List ReportedCondition) :
    find type (summarize reports) = (last? type reports).map ofReport := by
  induction reports using List.reverseRecOn with
  | nil => rfl
  | append_singleton reports r ih =>
      rw [summarize_concat, last?_concat]
      by_cases h : r.type = type
      · subst h
        rw [if_pos rfl]
        exact merge_find_self (ofReport r) (summarize reports)
      · rw [if_neg h, ← ih]
        exact merge_find_of_ne (ofReport r) (summarize reports) h

@[simp]
theorem mem_types_summarize (type : String) (reports : List ReportedCondition) :
    type ∈ (summarize reports).map Condition.type ↔
      type ∈ reports.map ReportedCondition.type := by
  rw [← not_iff_not, ← find_eq_none_iff, ← last?_eq_none_iff, find_summarize,
    Option.map_eq_none_iff]

/-- The types stand in the order in which they were first reported. -/
theorem order_summarize (reports : List ReportedCondition) :
    ((summarize reports).map Condition.type).Pairwise fun a b =>
      firstPlace a reports < firstPlace b reports := by
  induction reports using List.reverseRecOn with
  | nil => exact .nil
  | append_singleton reports r ih =>
      have hkept : ∀ type ∈ (summarize reports).map Condition.type,
          firstPlace type (reports ++ [r]) = firstPlace type reports := fun type h =>
        firstPlace_concat ((mem_types_summarize type reports).mp h) r
      have hordered : ((summarize reports).map Condition.type).Pairwise fun a b =>
          firstPlace a (reports ++ [r]) < firstPlace b (reports ++ [r]) :=
        ih.imp_of_mem fun ha hb hlt => by rwa [hkept _ ha, hkept _ hb]
      -- A type that is there keeps its place, and a new one comes after all that were reported.
      rw [summarize_concat, types_merge]
      split
      · exact hordered
      · rename_i hnew
        refine List.pairwise_append.mpr ⟨hordered, List.pairwise_singleton _ _, ?_⟩
        intro a ha b hb
        obtain rfl := List.mem_singleton.mp hb
        have hreported := (mem_types_summarize a reports).mp ha
        have hself : firstPlace r.type (reports ++ [r]) = reports.length :=
          firstPlace_concat_self fun h => hnew ((mem_types_summarize r.type reports).mpr h)
        calc firstPlace a (reports ++ [r]) = firstPlace a reports := hkept a ha
          _ < reports.length := firstPlace_lt hreported
          _ = firstPlace r.type (reports ++ [r]) := hself.symm

theorem sumUp_summarize (reports : List ReportedCondition) :
    SumUp (summarize reports) reports where
  distinct := distinct_summarize reports
  types type := mem_types_summarize type reports
  order := by
    have hordered := order_summarize reports
    rwa [List.pairwise_map] at hordered
  contents c hc := by
    have hfound := find_of_mem (distinct_summarize reports) hc
    rw [find_summarize] at hfound
    obtain ⟨r, hlast, htold⟩ := Option.map_eq_some_iff.mp hfound
    exact ⟨r, hlast, tells_iff.mpr htold.symm⟩

/-- Merging sums up, and nothing else does. -/
theorem summarize_eq_iff : summarize reports = conditions ↔ SumUp conditions reports := by
  constructor
  · rintro rfl
    exact sumUp_summarize reports
  · exact (sumUp_summarize reports).unique

/-! ## Merging two summaries -/

/-- Put later conditions in the places of the earlier ones of their types, or at the end. -/
def mergeAll (later earlier : List Condition) : List Condition :=
  later.foldl (fun merged c => merge c merged) earlier

@[simp]
theorem mem_types_merge {type : String} :
    type ∈ (merge c conditions).map Condition.type ↔
      type = c.type ∨ type ∈ conditions.map Condition.type := by
  rw [types_merge]
  split
  · rename_i hmem
    exact ⟨.inr, fun h => h.elim (fun heq => heq ▸ hmem) id⟩
  · rw [List.mem_append, List.mem_singleton, or_comm]

theorem merge_merge_of_type_eq (h : c.type = d.type) (conditions : List Condition) :
    merge d (merge c conditions) = merge d conditions := by
  induction conditions with
  | nil => simp [h]
  | cons e rest ih =>
      by_cases he : e.type = c.type
      · simp [he, h]
      · simp [he, ← h, ih]

/-- Two conditions of different types can be merged in either order if one of the types is there. -/
theorem merge_comm_of_mem (h : c.type ≠ d.type) (hmem : c.type ∈ conditions.map Condition.type) :
    merge c (merge d conditions) = merge d (merge c conditions) := by
  induction conditions with
  | nil => cases hmem
  | cons e rest ih =>
      by_cases hc : e.type = c.type
      · simp [hc, h]
      · have hrest : c.type ∈ rest.map Condition.type := by
          simpa [Ne.symm hc] using hmem
        by_cases hd : e.type = d.type
        · simp [hd, h.symm]
        · simp [hc, hd, ih hrest]

/-- A condition whose type is there can be merged before others or after them. -/
theorem mergeAll_merge_of_notMem {later : List Condition}
    (hmem : c.type ∈ conditions.map Condition.type)
    (hother : c.type ∉ later.map Condition.type) :
    mergeAll later (merge c conditions) = merge c (mergeAll later conditions) := by
  induction later generalizing conditions with
  | nil => rfl
  | cons d rest ih =>
      rw [List.map_cons, List.mem_cons, not_or] at hother
      calc mergeAll (d :: rest) (merge c conditions)
          = mergeAll rest (merge d (merge c conditions)) := rfl
        _ = mergeAll rest (merge c (merge d conditions)) := by
            rw [merge_comm_of_mem hother.1 hmem]
        _ = merge c (mergeAll rest (merge d conditions)) :=
            ih (mem_types_merge.mpr (.inr hmem)) hother.2

/-- One more condition can be merged into later ones or into the result. -/
theorem mergeAll_merge {later : List Condition} (h : Distinct later) (c : Condition)
    (earlier : List Condition) :
    mergeAll (merge c later) earlier = merge c (mergeAll later earlier) := by
  induction later generalizing earlier with
  | nil => rfl
  | cons d rest ih =>
      obtain ⟨hother, hrest⟩ := List.nodup_cons.mp h
      by_cases htype : d.type = c.type
      · rw [merge, if_pos htype]
        calc mergeAll rest (merge c earlier)
            = mergeAll rest (merge c (merge d earlier)) := by
              rw [merge_merge_of_type_eq htype]
          _ = merge c (mergeAll rest (merge d earlier)) :=
              mergeAll_merge_of_notMem (mem_types_merge.mpr (.inl htype.symm)) (htype ▸ hother)
      · rw [merge, if_neg htype]
        exact ih hrest (merge d earlier)

/-- Two parts are summed up by merging their summaries. -/
theorem summarize_append (first later : List ReportedCondition) :
    summarize (first ++ later) = mergeAll (summarize later) (summarize first) := by
  induction later using List.reverseRecOn with
  | nil =>
      rw [List.append_nil]
      rfl
  | append_singleton later r ih =>
      rw [← List.append_assoc, summarize_concat, summarize_concat, ih,
        mergeAll_merge (distinct_summarize later)]

end Condition

/-! ## The same conditions at other places -/

namespace Snapshot

variable {s t : Snapshot}

/-- Snapshots of which the same is found of each type are judged alike. -/
theorem judged_of_condition?_eq (hs : Condition.Distinct s.conditions)
    (ht : Condition.Distinct t.conditions) (hphase : s.statusPhase = t.statusPhase)
    (hfound : ∀ type, s.condition? type = t.condition? type) (events : List Event)
    (phase : Phase) :
    s.classify events = t.classify events ∧
      phase.estimate s.conditions = phase.estimate t.conditions ∧
      s.summarize phase = t.summarize phase := by
  have halike : ∀ m, Option.Rel Condition.Alike (s.milestone? m) (t.milestone? m) := by
    intro m
    rw [milestone?, hfound, milestone?]
    exact rel_self Condition.alike_self _
  have hwritten :
      Option.Rel (fun p q => Text.sameLetters p q = true) s.statusPhase t.statusPhase := by
    rw [hphase]
    exact rel_self (fun p => Text.sameLetters_refl p) _
  exact ⟨classify_of_alike halike hwritten rfl, estimate_of_alike halike hs ht phase,
    summarize_of_alike halike phase⟩

end Snapshot

/-! ## What a deployment reports -/

namespace Deployment

/-- The conditions that a deployment reports, as it lists them. -/
def reports (d : Deployment) : List ReportedCondition :=
  (d.status.map Status.conditions).getD []

/-- The deployment with other conditions in the place of those that it reports. -/
def withReports (d : Deployment) (reports : List ReportedCondition) : Deployment :=
  { d with status := d.status.map fun s => { s with conditions := reports } }

theorem reports_withReports {d : Deployment} (h : d.reports ≠ [])
    (reports : List ReportedCondition) : (d.withReports reports).reports = reports := by
  unfold Deployment.reports withReports at *
  cases hstatus : d.status with
  | none => simp [hstatus] at h
  | some s => rfl

@[simp]
theorem statusPhase_withReports (d : Deployment) (reports : List ReportedCondition) :
    (d.withReports reports).snapshot.statusPhase = d.snapshot.statusPhase := by
  unfold snapshot withReports
  cases d.status <;> rfl

/-- A snapshot has the last report of each type. -/
theorem condition?_snapshot (d : Deployment) (type : String) :
    d.snapshot.condition? type =
      (ReportedCondition.last? type d.reports).map Condition.ofReport := by
  rw [Snapshot.condition?, snapshot_conditions]
  exact Condition.find_summarize type d.reports

end Deployment

namespace Condition

open ReportedCondition

/-- The summary of a list of reports has each reported type once, in the order of the first reports
and with the contents of the last ones, and this is the only such list.  The summary of two lists
together depends on each of them through its own summary alone.  So a deployment's snapshot has, of
each type, the last report or nothing, and if a deployment reports a type and reports it again
later, then without the earlier reports it has the same phase, estimate and words. -/
theorem last_report_counts :
    (∀ reports conditions, summarize reports = conditions ↔ SumUp conditions reports) ∧
    (∀ first first' later later', summarize first = summarize first' →
      summarize later = summarize later' →
        summarize (first ++ later) = summarize (first' ++ later')) ∧
    ∀ d : Deployment,
      (∀ type, Option.Rel Tells (d.snapshot.condition? type) (last? type d.reports)) ∧
      ∀ before r after, d.reports = before ++ r :: after →
        let kept := before.filter (fun e => e.type != r.type) ++ r :: after
        let s := (d.withReports kept).snapshot
        ∀ events phase, s.classify events = d.snapshot.classify events ∧
          phase.estimate s.conditions = phase.estimate d.snapshot.conditions ∧
          s.summarize phase = d.snapshot.summarize phase := by
  refine ⟨fun _ _ => summarize_eq_iff, ?_, fun d => ⟨fun type => ?_, ?_⟩⟩
  · intro first first' later later' hfirst hlater
    rw [summarize_append, summarize_append, hfirst, hlater]
  · rw [d.condition?_snapshot]
    cases last? type d.reports with
    | none => exact .none
    | some r => exact .some (tells_iff.mpr rfl)
  · intro before r after hreports kept s events phase
    have hsome : d.reports ≠ [] := by
      simp [hreports]
    have hfound : ∀ type, s.condition? type = d.snapshot.condition? type := by
      intro type
      rw [Deployment.condition?_snapshot, Deployment.condition?_snapshot,
        Deployment.reports_withReports hsome, hreports, last?_drop_overtaken]
    exact Snapshot.judged_of_condition?_eq (Deployment.snapshot_distinct _) d.snapshot_distinct
      (d.statusPhase_withReports kept) hfound events phase

/-- The infrastructure is reported twice, around a report of readiness that is repeated without its
text.  Without the first report of the infrastructure the conditions change places, and the cluster
is bootstrapping either way.  Another status in that report is overtaken as well. -/
theorem last_report_counts_of_repeated_types :
    let infrastructure (status : String) : ReportedCondition :=
      ⟨"InfrastructureReady", status, some "2026-10-17T10:00:00Z", none, none⟩
    let waiting : ReportedCondition := ⟨"Ready", "False", none, some "Waiting", some "Not yet"⟩
    let before := [infrastructure "False", waiting]
    let provisioned : ReportedCondition :=
      ⟨"InfrastructureReady", "True", none, some "Provisioned", none⟩
    let after : List ReportedCondition := [⟨"Ready", "False", none, none, none⟩]
    let d : Deployment :=
      { Deployment.named "ns" "a" with
        status := some ⟨none, before ++ provisioned :: after, [], none⟩ }
    let kept := [waiting, provisioned, ⟨"Ready", "False", none, none, none⟩]
    let s := (d.withReports kept).snapshot
    let ready : Condition := ⟨"Ready", "False", "", ""⟩
    let done : Condition := ⟨"InfrastructureReady", "True", "Provisioned", ""⟩
    SumUp [done, ready] d.reports ∧
      summarize (infrastructure "Unknown" :: before ++ after) = summarize (before ++ after) ∧
      Option.Rel Tells (some ready) (last? "Ready" d.reports) ∧
      s.conditions = [ready, done] ∧ d.snapshot.conditions = [done, ready] ∧
      s.classify [] = .bootstrapping ∧ d.snapshot.classify [] = .bootstrapping ∧
      s.summarize .bootstrapping = d.snapshot.summarize .bootstrapping := by
  intro infrastructure waiting before provisioned after d kept s ready done
  obtain ⟨hsumUp, happend, hdeployment⟩ := last_report_counts
  obtain ⟨hfound, hovertaken⟩ := hdeployment d
  have hconditions : d.snapshot.conditions = [done, ready] := by
    decide +kernel
  have hready : d.snapshot.condition? "Ready" = some ready := by
    decide +kernel
  have hphase : s.classify [] = .bootstrapping := by
    decide +kernel
  obtain ⟨hclassify, -, hwords⟩ := hovertaken before provisioned after rfl [] .bootstrapping
  exact ⟨(hsumUp _ _).mp hconditions, happend _ _ _ _ (by decide +kernel) rfl,
    hready ▸ hfound "Ready", by decide +kernel, hconditions, hphase,
    hclassify.symm.trans hphase, hwords⟩

end Condition
end ProvisionWatch

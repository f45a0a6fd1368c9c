import ProvisionWatch.Proofs.Manager.LaneSteps
import ProvisionWatch.Proofs.Manager.SinkAnswers

/-!
# Subscriptions do not depend on each other

All subscriptions share one registry, one quota, one clock, the numbers of
entries and the sinks.  As long as there is room for those that are asked for,
none of this carries anything from one target to another: whatever happens for a
target in a run also happens, in the same order, in the run in which all steps
that concern other targets are left out.

Two managers run side by side, one with all targets and one with a single target.
The lanes of that target stay the same: a step that concerns it is taken by both,
and another one by the first only.

Main results:

- Theorem `Twins.own` and `Twins.other`: what one step does to both managers.
- Theorem `Twins.run`: both see the same in a whole run.
- Theorem `subscriptions_independent`: a run without the steps of other targets
  shows a target the same.
-/

namespace ProvisionWatch

/-! ## What a target sees -/

/-- What occurs for a target in a run, in order, whatever the sinks answer. -/
def seenFrom (target : Target) (calls : List Nat) (occurred : List Occurrence) :
    List Occurrence :=
  (occurred.filter (Occurrence.concerns target calls)).map Occurrence.accepted

/-- The update that is handed to a sink for a target, with the number of the sink. -/
def Occurrence.handedTo? (target : Target) : Occurrence → Option (Nat × Update)
  | delivered sink place u fate =>
      if place = target ∧ fate ≠ .coalesced then some (sink, u) else none
  | asked _ | returned _ _ | opened _ | watchError _ _ _ | stalled _ | closed _ _ => none

/-- The result that one of some calls returns. -/
def Occurrence.resultOf? (calls : List Nat) : Occurrence → Option (Nat × CallResult)
  | returned call result => if call ∈ calls then some (call, result) else none
  | asked _ | opened _ | delivered _ _ _ _ | watchError _ _ _ | stalled _ | closed _ _ => none

/-- Why a call to subscribe was refused, if it was. -/
def Occurrence.refusal? : Occurrence → Option MonitorError
  | returned _ (.subscribed (.error e)) => some e
  | returned _ (.subscribed (.ok _)) | returned _ .brokeDown | returned _ .stopped
  | returned _ (.state _) | asked _ | opened _ | delivered _ _ _ _ | watchError _ _ _ | stalled _
  | closed _ _ => none

/-- Why a subscription to a target ends. -/
def Occurrence.endingOf? (target : Target) : Occurrence → Option Ending
  | closed place ending => if place = target then some ending else none
  | asked _ | returned _ _ | opened _ | delivered _ _ _ _ | watchError _ _ _ | stalled _ => none

/-- Two runs show a target the same, where `calls` are the calls about it. -/
structure ShowSame (target : Target) (calls : List Nat) (occurred occurred' : List Occurrence) :
    Prop where
  /-- The same updates were handed to the same sinks. -/
  updates : occurred'.filterMap (Occurrence.handedTo? target) =
    occurred.filterMap (Occurrence.handedTo? target)
  /-- The calls returned the same. -/
  results : occurred'.filterMap (Occurrence.resultOf? calls) =
    occurred.filterMap (Occurrence.resultOf? calls)
  /-- The subscriptions ended for the same reasons. -/
  endings : occurred'.filterMap (Occurrence.endingOf? target) =
    occurred.filterMap (Occurrence.endingOf? target)
  /-- All this came in the same order, and so did all else that occurs for the target. -/
  seen : seenFrom target calls occurred' = seenFrom target calls occurred

/-- The answers of the sinks do not change what calls return. -/
theorem Occurrence.eq_of_accepted {o : Occurrence} {call : Nat} {result : CallResult}
    (h : o.accepted = .returned call result) : o = .returned call result := by
  cases o with
  | delivered sink place u fate => cases fate <;> cases h
  | asked | returned | opened | watchError | stalled | closed => exact h

/-- What is read off an occurrence is neither the answer of a sink nor something of another
target. -/
structure ReadsFor {α : Type} (target : Target) (calls : List Nat) (f : Occurrence → Option α) :
    Prop where
  accepted : ∀ o, f o.accepted = f o
  others : ∀ o, o.concerns target calls = false → f o = none

/-- What can be read off the occurrences for a target can be read off what it sees. -/
theorem ReadsFor.filterMap_seenFrom {α : Type} {target : Target} {calls : List Nat}
    {f : Occurrence → Option α} (h : ReadsFor target calls f) (occurred : List Occurrence) :
    (seenFrom target calls occurred).filterMap f = occurred.filterMap f := by
  rw [seenFrom, List.filterMap_map, List.filterMap_filter]
  refine List.filterMap_congr fun o _ => ?_
  split
  · exact h.accepted o
  · rename_i hother
    exact (h.others o (Bool.eq_false_iff.mpr hother)).symm

theorem readsFor_handedTo? (target : Target) (calls : List Nat) :
    ReadsFor target calls (Occurrence.handedTo? target) where
  accepted := Occurrence.apply_accepted fun sink place u e => by simp [Occurrence.handedTo?]
  others o hother := by
    cases o with
    | delivered sink place u fate =>
        have hne : place ≠ target := beq_eq_false_iff_ne.mp hother
        simp [Occurrence.handedTo?, hne]
    | asked | returned | opened | watchError | stalled | closed => rfl

theorem readsFor_resultOf? (target : Target) (calls : List Nat) :
    ReadsFor target calls (Occurrence.resultOf? calls) where
  accepted := Occurrence.apply_accepted fun _ _ _ _ => rfl
  others o hother := by
    cases o with
    | returned call result =>
        have hmem : call ∉ calls := mt List.contains_iff_mem.mpr (Bool.eq_false_iff.mp hother)
        exact if_neg hmem
    | asked | delivered | opened | watchError | stalled | closed => rfl

theorem readsFor_endingOf? (target : Target) (calls : List Nat) :
    ReadsFor target calls (Occurrence.endingOf? target) where
  accepted := Occurrence.apply_accepted fun _ _ _ _ => rfl
  others o hother := by
    cases o with
    | closed place ending =>
        have hne : place ≠ target := beq_eq_false_iff_ne.mp hother
        exact if_neg hne
    | asked | returned | opened | delivered | watchError | stalled => rfl

/-- Runs show the same if all that is seen is the same. -/
theorem showSame_of_seen {target : Target} {calls : List Nat} {occurred occurred' : List Occurrence}
    (h : seenFrom target calls occurred' = seenFrom target calls occurred) :
    ShowSame target calls occurred occurred' := by
  have hread : ∀ {α : Type} {f : Occurrence → Option α}, ReadsFor target calls f →
      occurred'.filterMap f = occurred.filterMap f := by
    intro α f hf
    rw [← hf.filterMap_seenFrom, h, hf.filterMap_seenFrom]
  exact ⟨hread (readsFor_handedTo? target calls), hread (readsFor_resultOf? target calls),
    hread (readsFor_endingOf? target calls), h⟩

namespace Manager

variable {policy : Policy} {perCallerLimit globalLimit : Nat} {target : Target} {calls : List Nat}
variable {m m' : Manager Unit} {label : Label} {labels : List Label} {call : Nat}
variable {r : Stepped Unit}

/-! ## New calls -/

/-- A call begins under a number that no call has. -/
theorem fresh_of_step {σ : Type} {sinks : SinkInterface σ} {m : Manager σ} {r : Stepped σ}
    (hstep : m.step policy sinks label = some r) (hbegins : label.begins? = some call) :
    m.call? call = none := by
  cases label with
  | subscribe | unsubscribe | shutdown | readState =>
      obtain rfl := Option.some.inj hbegins
      exact (ifFresh_eq_some hstep).1
  | fetched | watched | eventsWatched | listed | resume | abandon | arrive | work | setClock
  | bind => cases hbegins

/-- A call that takes a step and does not begin in it has begun before. -/
theorem pending_of_step {σ : Type} {sinks : SinkInterface σ} {m : Manager σ} {r : Stepped σ}
    (hstep : m.step policy sinks label = some r) (hown : label.call? = some call)
    (hbegun : label.begins? ≠ some call) : m.call? call ≠ none := by
  intro hnone
  cases label with
  | subscribe | unsubscribe | shutdown | readState => exact hbegun hown
  | fetched | watched | eventsWatched | listed | resume | abandon =>
      obtain rfl := Option.some.inj hown
      simp [step, hnone] at hstep
  | arrive | work | setClock | bind => cases hown

/-- No call has a number yet under which one begins in some steps. -/
def Unbegun {σ : Type} (m : Manager σ) (labels : List Label) : Prop :=
  ∀ call ∈ labels.filterMap Label.begins?, m.call? call = none

theorem Unbegun.tail {σ : Type} {m : Manager σ} (h : m.Unbegun (label :: labels)) :
    m.Unbegun labels := by
  intro call hcall
  obtain ⟨other, hother, hbegins⟩ := List.mem_filterMap.mp hcall
  exact h call (List.mem_filterMap.mpr ⟨other, List.mem_cons_of_mem label hother, hbegins⟩)

/-- Where calls have numbers of their own, those to come are still unbegun after a step. -/
theorem step_unbegun {σ : Type} {sinks : SinkInterface σ} {m : Manager σ} {r : Stepped σ}
    (hm : m.Distinct) (hnames : ((label :: labels).filterMap Label.begins?).Nodup)
    (hunbegun : m.Unbegun (label :: labels)) (hstep : m.step policy sinks label = some r) :
    r.1.Unbegun labels := by
  intro call hcall
  have hnone : m.call? call = none := hunbegun.tail call hcall
  have hne : label.call? ≠ some call := by
    intro hown
    by_cases hbegins : label.begins? = some call
    · rw [List.filterMap_cons_some hbegins] at hnames
      exact (List.nodup_cons.mp hnames).1 hcall
    · exact pending_of_step hstep hown hbegins hnone
  have hsame := (step_acts hstep).call?_of_ne hm hne
  rw [hnone, Option.map_none, Option.map_eq_none_iff] at hsame
  exact hsame

/-! ## Room -/

/-- Where no call is refused for want of room, who looks for a free target finds room. -/
theorem roomy_of_step {σ : Type} {sinks : SinkInterface σ} {m : Manager σ} {r : Stepped σ}
    (hstep : m.step policy sinks label = some r)
    (hroom : ∀ call e, .returned call (.subscribed (.error (.capacity e))) ∉ r.2) :
    m.Roomy policy label := by
  intro call request sink hlooks hfree
  cases hacquire : m.quota.acquire request.caller with
  | ok quota => exact ⟨quota, rfl⟩
  | error e =>
      rw [hlooks.step_eq, attempt, hfree] at hstep
      simp only [hacquire] at hstep
      obtain rfl := Option.some.inj hstep
      exact absurd List.mem_cons_self (hroom call e)

/-- Where nothing is registered, there is room for whoever would find some. -/
theorem Ledger.room_of_empty (h : Ledger perCallerLimit globalLimit m)
    (hempty : m.registry = []) (hcaller : 0 < perCallerLimit) (hglobal : 0 < globalLimit)
    (caller : String) : ∃ quota, m.quota.acquire caller = .ok quota := by
  have hbooks := h.accounted
  have hinUse : m.quota.inUse = 0 := by rw [hbooks.inUse_eq, hempty]; rfl
  have hheld : m.quota.heldBy caller = 0 := by rw [hbooks.heldBy_eq, hempty]; rfl
  rw [Quota.acquire_eq_ok_iff, hinUse, hheld, h.global, h.perCaller]
  exact ⟨hglobal, hcaller⟩

/-! ## Two managers side by side -/

/-- Two managers side by side: to a target they are the same, and the second knows no other. -/
structure Twins (perCallerLimit globalLimit : Nat) (target : Target) (calls : List Nat)
    (m m' : Manager Unit) : Prop where
  ledger : Ledger perCallerLimit globalLimit m
  ledger' : Ledger perCallerLimit globalLimit m'
  apart : Apart target calls m
  apart' : Apart target calls m'
  lane_eq : m'.lane target calls = m.lane target calls
  alone : ∀ e ∈ m'.registry, e.target = target

theorem twins_start (now : Instant) (bound : Option Nat) :
    Twins perCallerLimit globalLimit target calls
      (Manager.start now () bound (Quota.new perCallerLimit globalLimit))
      (Manager.start now () bound (Quota.new perCallerLimit globalLimit)) where
  ledger := ledger_start now () bound
  ledger' := ledger_start now () bound
  apart := apart_start now () bound _
  apart' := apart_start now () bound _
  lane_eq := rfl
  alone _ he := nomatch he

/-- Who looks in a step that concerns a target looks for that target. -/
theorem Apart.target_of_looks {σ : Type} {m : Manager σ} (h : Apart target calls m)
    (hattributed : label.Attributed target calls) (hconcerns : label.concerns target calls = true)
    {request : SubscribeRequest} {sink : Nat} (hlooks : Looks policy m label call request sink) :
    call ∈ calls ∧ request.target = target := by
  have hmem : call ∈ calls := by
    cases hlooks with
    | anew | again => exact List.contains_iff_mem.mp hconcerns
  exact ⟨hmem, (h.looks_iff hattributed hlooks).mp hmem⟩

/-- The target is free for both or for none. -/
theorem Twins.free (h : Twins perCallerLimit globalLimit target calls m m')
    (hfree : m'.lookup? target = none) : m.lookup? target = none := by
  have hentry : (m.lane target calls).entry = none := by
    rw [← h.lane_eq, entry_lane_of_free hfree]
  exact Option.map_eq_none_iff.mp hentry

/-- Who looks in the second looks in the first. -/
theorem Twins.looks (h : Twins perCallerLimit globalLimit target calls m m')
    (hmem : call ∈ calls) (hfresh : label.begins? = some call → m.call? call = none)
    {request : SubscribeRequest} {sink : Nat} (hlooks : Looks policy m' label call request sink) :
    Looks policy m label call request sink := by
  cases hlooks with
  | anew fresh passes bound =>
      refine .anew (hfresh rfl) passes ?_
      rw [← bound]
      exact (congrArg Lane.bound h.lane_eq).symm
  | @again _ entry _ _ waiting unannounced gone =>
      have hunannounced : m'.announced.contains entry = false := by simpa using unannounced
      have hcall : (m'.lane target calls).call? call = (m.lane target calls).call? call := by
        rw [h.lane_eq]
      rw [call?_lane m' hmem, call?_lane m hmem, waiting, Option.map_some, laneCall, gone,
        hunannounced] at hcall
      obtain ⟨p, hp, hsame⟩ := Option.map_eq_some_iff.mp hcall.symm
      cases p with
      | waiting entry' request' sink' =>
          obtain ⟨hstanding, rfl, rfl⟩ := LaneCall.waiting.inj hsame
          obtain ⟨hannounced, hgone⟩ := Standing.mk.inj hstanding
          exact .again hp (by simpa using hannounced) hgone
      | settingUp | stopping | reading => cases hsame

/-- Who looks in the second finds room if he finds some in the first. -/
theorem Twins.room (h : Twins perCallerLimit globalLimit target calls m m')
    (hfree : m'.lookup? target = none) {caller : String} {quota : Quota}
    (hquota : m.quota.acquire caller = .ok quota) :
    ∃ quota, m'.quota.acquire caller = .ok quota := by
  obtain ⟨hglobal, hcaller, -⟩ := Quota.acquire_eq_ok hquota
  rw [h.ledger.global] at hglobal
  rw [h.ledger.perCaller] at hcaller
  have hempty : m'.registry = [] := by
    refine List.eq_nil_iff_forall_not_mem.mpr fun e he => ?_
    have hfound := List.find?_eq_none.mp hfree e he
    exact hfound (beq_iff_eq.mpr (h.alone e he))
  exact h.ledger'.room_of_empty hempty (Nat.zero_lt_of_lt hcaller) (Nat.zero_lt_of_lt hglobal)
    caller

/-- A step that concerns the target is taken by both, and the same occurs for the target. -/
theorem Twins.own (h : Twins perCallerLimit globalLimit target calls m m')
    (hattributed : label.Attributed target calls) (hconcerns : label.concerns target calls = true)
    (hfresh : ∀ call, label.begins? = some call → m'.call? call = none)
    (hstep : m.step policy .accepting label = some r)
    (hroom : ∀ call e, .returned call (.subscribed (.error (.capacity e))) ∉ r.2) :
    ∃ r', m'.step policy .accepting label = some r' ∧
      Twins perCallerLimit globalLimit target calls r.1 r'.1 ∧
      r'.2.filter (Occurrence.concerns target calls) =
        r.2.filter (Occurrence.concerns target calls) := by
  have hroomy : m.Roomy policy label := roomy_of_step hstep hroom
  have hroomy' : m'.Roomy policy label := by
    intro call request sink hlooks hfree
    obtain ⟨hmem, htarget⟩ := h.apart'.target_of_looks hattributed hconcerns hlooks
    rw [htarget] at hfree
    have hlooks' := h.looks hmem (fresh_of_step hstep) hlooks
    obtain ⟨quota, hquota⟩ := hroomy call request sink hlooks' (htarget ▸ h.free hfree)
    exact h.room hfree hquota
  have hlane := step_lane h.apart h.ledger hattributed hconcerns
    (fun call => fresh_of_step hstep) hroomy
  have hlane' := step_lane h.apart' h.ledger' hattributed hconcerns hfresh hroomy'
  rw [h.lane_eq, ← hlane, hstep, Option.map_some] at hlane'
  obtain ⟨r', hstep', hsame⟩ := Option.map_eq_some_iff.mp hlane'
  refine ⟨r', hstep', ⟨step_ledger h.ledger hstep, step_ledger h.ledger' hstep',
    step_apart h.apart h.ledger hattributed hstep,
    step_apart h.apart' h.ledger' hattributed hstep', congrArg Prod.fst hsame, ?_⟩,
    congrArg Prod.snd hsame⟩
  intro e he
  rcases (step_acts hstep').registered he with ⟨f, hf, hkey⟩ | ⟨-, _, _, _, hlooks, htarget⟩
  · exact (congrArg Prod.snd hkey).symm.trans (h.alone f hf)
  · exact htarget.symm.trans (h.apart'.target_of_looks hattributed hconcerns hlooks).2

/-- Another step is taken by the first only, and nothing occurs for the target. -/
theorem Twins.other (h : Twins perCallerLimit globalLimit target calls m m')
    (hattributed : label.Attributed target calls) (hother : label.concerns target calls = false)
    (hstep : m.step policy .accepting label = some r) :
    Twins perCallerLimit globalLimit target calls r.1 m' ∧
      r.2.filter (Occurrence.concerns target calls) = [] := by
  have hsame := lane_of_not_concerns h.apart h.ledger hattributed hother hstep
  obtain ⟨hlane, hnothing⟩ := Prod.mk.inj hsame
  exact ⟨⟨step_ledger h.ledger hstep, h.ledger', step_apart h.apart h.ledger hattributed hstep,
    h.apart', h.lane_eq.trans hlane.symm, h.alone⟩, hnothing⟩

/-- In a whole run both see the same, where the second takes only the steps that concern the
target. -/
theorem Twins.run (h : Twins perCallerLimit globalLimit target calls m m')
    (hattributed : ∀ label ∈ labels, label.Attributed target calls)
    (hnames : (labels.filterMap Label.begins?).Nodup) (hunbegun : m'.Unbegun labels)
    {occurred : List Occurrence} {last : Manager Unit}
    (hrun : m.run policy .accepting labels = some (last, occurred))
    (hroom : ∀ call e, .returned call (.subscribed (.error (.capacity e))) ∉ occurred) :
    ∃ r', m'.run policy .accepting (labels.filter (Label.concerns target calls)) = some r' ∧
      r'.2.filter (Occurrence.concerns target calls) =
        occurred.filter (Occurrence.concerns target calls) := by
  induction labels generalizing m m' occurred with
  | nil =>
      obtain ⟨-, rfl⟩ := Prod.mk.inj (Option.some.inj hrun)
      exact ⟨(m', []), rfl, rfl⟩
  | cons label rest ih =>
      obtain ⟨⟨next, first⟩, ⟨last', later⟩, hstep, hlater, heq⟩ := run_cons_eq_some_iff.mp hrun
      obtain ⟨rfl, rfl⟩ := Prod.mk.inj heq
      have hlabel : label.Attributed target calls := hattributed label List.mem_cons_self
      have hrest : ∀ label ∈ rest, label.Attributed target calls :=
        fun other hother => hattributed other (List.mem_cons_of_mem label hother)
      have hnames' : (rest.filterMap Label.begins?).Nodup :=
        hnames.sublist ((List.sublist_cons_self label rest).filterMap Label.begins?)
      have hroomFirst : ∀ call e, .returned call (.subscribed (.error (.capacity e))) ∉ first :=
        fun call e hmem => hroom call e (List.mem_append_left later hmem)
      have hroomLater : ∀ call e, .returned call (.subscribed (.error (.capacity e))) ∉ later :=
        fun call e hmem => hroom call e (List.mem_append_right first hmem)
      cases hconcerns : label.concerns target calls with
      | true =>
          have hfresh : ∀ call, label.begins? = some call → m'.call? call = none :=
            fun call hbegins =>
              hunbegun call (List.mem_filterMap.mpr ⟨label, List.mem_cons_self, hbegins⟩)
          obtain ⟨⟨next', first'⟩, hstep', htwins, hsame⟩ :=
            h.own hlabel hconcerns hfresh hstep hroomFirst
          obtain ⟨⟨last'', later'⟩, hlater', hsameLater⟩ := ih htwins hrest hnames'
            (step_unbegun h.ledger'.distinct hnames hunbegun hstep') hlater hroomLater
          refine ⟨(last'', first' ++ later'), ?_, ?_⟩
          · rw [List.filter_cons_of_pos hconcerns]
            exact run_cons_eq_some_iff.mpr ⟨_, _, hstep', hlater', rfl⟩
          · rw [List.filter_append, List.filter_append, hsame, hsameLater]
      | false =>
          obtain ⟨htwins, hnothing⟩ := h.other hlabel hconcerns hstep
          obtain ⟨r', hlater', hsameLater⟩ :=
            ih htwins hrest hnames' hunbegun.tail hlater hroomLater
          refine ⟨r', ?_, ?_⟩
          · rw [List.filter_cons_of_neg (by simp [hconcerns])]
            exact hlater'
          · rw [List.filter_append, hnothing, List.nil_append, hsameLater]

/-! ## Subscriptions by themselves -/

/-- What a target sees is what the occurrences show that concern it once the answers of the sinks
are left out. -/
theorem seenFrom_eq (target : Target) (calls : List Nat) (occurred : List Occurrence) :
    seenFrom target calls occurred =
      (occurred.map Occurrence.accepted).filter (Occurrence.concerns target calls) := by
  have hsame : Occurrence.concerns target calls ∘ Occurrence.accepted =
      Occurrence.concerns target calls :=
    funext (Occurrence.apply_accepted fun _ _ _ _ => rfl)
  rw [seenFrom, List.filter_map, hsame]

/-- Subscriptions are independent.  Where no call to subscribe is refused for want of room, leaving
out all steps that concern other targets leaves a run that shows a target the same: the same
updates are handed to the sinks for it, the calls about it return the same, and its subscriptions
end for the same reasons, all in the same order.

Calls are told apart by numbers of their own.  The clock and the sinks that are bound concern every
target, and so does a call to stop everything when it begins. -/
theorem subscriptions_independent {σ : Type} {sinks : SinkInterface σ} {now : Instant} {world : σ}
    {bound : Option Nat} {m : Manager σ} {occurred : List Occurrence}
    (hnames : (labels.filterMap Label.begins?).Nodup)
    (hrun : (Manager.start now world bound (Quota.new perCallerLimit globalLimit)).run policy sinks
      labels = some (m, occurred))
    (hroom : ∀ call e, .returned call (.subscribed (.error (.capacity e))) ∉ occurred)
    (target : Target) :
    ∃ m' occurred',
      (Manager.start now world bound (Quota.new perCallerLimit globalLimit)).run policy sinks
          (labels.filter (Label.concerns target (callsAbout target labels))) =
        some (m', occurred') ∧
      ShowSame target (callsAbout target labels) occurred occurred' := by
  let calls := callsAbout target labels
  have hattributed : ∀ label ∈ labels, label.Attributed target calls :=
    fun label hlabel => attributed_of_nodup hnames target hlabel
  have herased := @run_withoutSinks σ policy sinks
    (Manager.start now world bound (Quota.new perCallerLimit globalLimit)) labels
  rw [hrun, Option.map_some] at herased
  have hroomy : ∀ call e, .returned call (.subscribed (.error (.capacity e))) ∉
      occurred.map Occurrence.accepted := by
    intro call e hmem
    obtain ⟨o, ho, hreturned⟩ := List.mem_map.mp hmem
    exact hroom call e (Occurrence.eq_of_accepted hreturned ▸ ho)
  obtain ⟨r', halone, hsame⟩ := (twins_start now bound).run hattributed hnames
    (fun _ _ => rfl) herased.symm hroomy
  have herased' := @run_withoutSinks σ policy sinks
    (Manager.start now world bound (Quota.new perCallerLimit globalLimit))
    (labels.filter (Label.concerns target calls))
  obtain ⟨⟨m', occurred'⟩, hrun', hr'⟩ := Option.map_eq_some_iff.mp (herased'.trans halone)
  refine ⟨m', occurred', hrun', showSame_of_seen ?_⟩
  rw [seenFrom_eq, seenFrom_eq, ← hsame, ← hr']
  rfl

/-- One target is watched until it is deleted, while another one is asked for twice in between and
is never found.  Without the steps for the second the first is handed the same three updates. -/
theorem subscriptions_independent_of_neighbour :
    let a : Target := ⟨"ns", "a"⟩
    let b : Target := ⟨"ns", "b"⟩
    let labels : List Label :=
      [ .subscribe 1 ⟨"ann", a, none⟩, .subscribe 2 ⟨"ann", b, none⟩,
        .fetched 1 (.ok (some .blank)), .fetched 2 (.ok none), .watched 1 (.ok ()),
        .eventsWatched 1 (.ok ()), .subscribe 3 ⟨"bob", b, none⟩, .listed 1 (.ok []),
        .arrive a (.event (.error (.stream "gone"))), .work a, .fetched 3 (.ok none),
        .arrive a (.resource (.change ⟨.blank, .deleted⟩)), .work a ]
    ∃ m occurred,
      (Manager.start default () (some 0) (Quota.new 10 100)).run Policy.standard .accepting labels =
        some (m, occurred) ∧
      (occurred.filterMap (Occurrence.handedTo? a)).map (fun handed => handed.2.reason) =
        ["Initializing", "EventStreamError", "ResourceDeleted"] ∧
      occurred.filterMap Occurrence.refusal? = [.notFound b, .notFound b] ∧
      (labels.filter (Label.concerns a (callsAbout a labels))).length = 9 ∧
      ∃ m' occurred',
        (Manager.start default () (some 0) (Quota.new 10 100)).run Policy.standard .accepting
            (labels.filter (Label.concerns a (callsAbout a labels))) = some (m', occurred') ∧
          ShowSame a (callsAbout a labels) occurred occurred' := by
  intro a b labels
  have hends : ((Manager.start default () (some 0) (Quota.new 10 100)).run Policy.standard
      .accepting labels).map (fun r =>
        ((r.2.filterMap (Occurrence.handedTo? a)).map (fun handed => handed.2.reason),
          r.2.filterMap Occurrence.refusal?)) =
      some (["Initializing", "EventStreamError", "ResourceDeleted"],
        [.notFound b, .notFound b]) := by
    decide +kernel
  obtain ⟨⟨m, occurred⟩, hrun, hread⟩ := Option.map_eq_some_iff.mp hends
  obtain ⟨hreasons, hrefused⟩ := Prod.mk.inj hread
  have hroom : ∀ call e, .returned call (.subscribed (.error (.capacity e))) ∉ occurred := by
    intro call e hmem
    have hlisted : .capacity e ∈ occurred.filterMap Occurrence.refusal? :=
      List.mem_filterMap.mpr ⟨_, hmem, rfl⟩
    simp [hrefused] at hlisted
  have hlength : (labels.filter (Label.concerns a (callsAbout a labels))).length = 9 := by
    decide +kernel
  exact ⟨m, occurred, hrun, hreasons, hrefused, hlength,
    subscriptions_independent (by decide) hrun hroom a⟩

end Manager
end ProvisionWatch

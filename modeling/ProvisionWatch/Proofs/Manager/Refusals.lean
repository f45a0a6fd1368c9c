import ProvisionWatch.Proofs.Manager.Footprint
import ProvisionWatch.Proofs.Manager.Ledger
import ProvisionWatch.Proofs.Subscription.Cutoff

/-!
# Why a call to subscribe fails

A call to subscribe passes its checks one after the other, and the first one
that fails is the error it returns: those of the request and of the settings
before it looks at the registry, the limits of the quota when it finds its
target free, and the answers to its questions in the order in which it asks
them.  What is said about events is not among the checks.

Main results:

- Theorem `looks_conclude`: a call that finds its target free returns the first
  error there is, or it starts.
- Theorem `Act.asksRightly`: only admitted targets are asked about.
- Theorem `refusals_leave_no_trace`: in every state that a manager can reach, a
  call that fails does so for the first check, and nothing is left of it.
-/

namespace ProvisionWatch

/-! ## Checks in order -/

/-- The error of a check, if it fails. -/
def failsIf (failing : Bool) (e : MonitorError) : Option MonitorError :=
  if failing then some e else none

/-- The error of the first check that fails. -/
def firstFailing (checks : List (Option MonitorError)) : Option MonitorError :=
  checks.findSome? id

@[simp]
theorem firstFailing_nil : firstFailing [] = none :=
  rfl

@[simp]
theorem firstFailing_passed (checks : List (Option MonitorError)) :
    firstFailing (none :: checks) = firstFailing checks :=
  rfl

@[simp]
theorem firstFailing_failed (e : MonitorError) (checks : List (Option MonitorError)) :
    firstFailing (some e :: checks) = some e :=
  rfl

/-- What the collaborators answer when a subscription is set up. -/
structure Answers where
  fetched : Except WatchError (Option Deployment)
  watched : Except WatchError Unit
  eventsWatched : Except WatchError Unit
  listed : Except WatchError (List Event)

namespace Answers

/-- The steps in which a call takes the answers. -/
def labels (a : Answers) (call : Nat) : List Label :=
  [ .fetched call a.fetched, .watched call a.watched, .eventsWatched call a.eventsWatched,
    .listed call a.listed ]

/-- The error of the fetch. -/
def fetchError? (a : Answers) : Option MonitorError :=
  match a.fetched with
  | .error e => some (.watch e)
  | .ok _ => none

/-- Whether the fetch found nothing. -/
def foundNothing (a : Answers) : Bool :=
  match a.fetched with
  | .ok none => true
  | .ok (some _) | .error _ => false

/-- The error of the watch. -/
def watchError? (a : Answers) : Option MonitorError :=
  match a.watched with
  | .error e => some (.watch e)
  | .ok () => none

/-- The events that are listed; none if they cannot be. -/
def events (a : Answers) : List Event :=
  a.listed.toOption.getD []

end Answers

/-- Whether there is room for the listed events, and their cutoff can be told if there are any. -/
def Policy.takesIn (policy : Policy) (now : Instant) (listed : List Event) : Bool :=
  policy.config.retention.fits &&
    (policy.config.eventSnapshotLimit == 0 || listed.isEmpty ||
      (now.sub? policy.config.retention.age).isSome)

/-- Whether a question is about a target. -/
def Question.concerns (target : Target) : Question → Prop
  | fetch asked | watch asked => asked = target
  | watchEvents ns | listEvents ns => ns = target.ns

namespace Manager

variable {σ : Type} {policy : Policy} {sinks : SinkInterface σ}
variable {m m' : Manager σ} {label : Label} {call : Nat} {r : Stepped σ}
variable {request : SubscribeRequest} {sink : Nat} {a : Answers} {error : Option MonitorError}

/-- The checks before a call looks at the registry. -/
def earlyChecks (policy : Policy) (m : Manager σ) (request : SubscribeRequest) :
    List (Option MonitorError) :=
  [ failsIf (Text.isBlankText request.target.ns) (.request .missingNamespace),
    failsIf (Text.isBlankText request.target.name) (.request .missingName),
    failsIf (request.timeout.any Duration.isZero) (.request (.timeout "0")),
    failsIf (!policy.allowList.admits request.target.ns) (.unauthorized request.target.ns),
    failsIf m.bound.isNone .notBound ]

/-- The checks of a call that finds its target free. -/
def lateChecks (m : Manager σ) (request : SubscribeRequest) (a : Answers) :
    List (Option MonitorError) :=
  [ failsIf (m.quota.globalLimit ≤ m.quota.inUse) (.capacity (.globalLimit m.quota.globalLimit)),
    failsIf (m.quota.perCallerLimit ≤ m.quota.heldBy request.caller)
      (.capacity (.callerLimit request.caller m.quota.perCallerLimit)),
    a.fetchError?,
    failsIf a.foundNothing (.notFound request.target),
    a.watchError? ]

/-! ## Before a call looks -/

theorem dropCall_of_fresh (h : m.call? call = none) : m.dropCall call = m := by
  have hcalls : m.calls.filter (fun c => c.1 != call) = m.calls := by
    rw [List.filter_eq_self]
    intro c hc
    have hne : call ≠ c.1 := by simpa using List.lookup_eq_none_iff.mp h c hc
    simpa using Ne.symm hne
  rw [dropCall, hcalls]

/-- A call whose first checks are passed looks at the registry, and one that fails a check returns
its error. -/
theorem beginSubscribe_eq (policy : Policy) (m : Manager σ) (call : Nat)
    (request : SubscribeRequest) :
    (∀ e, firstFailing (earlyChecks policy m request) = some e →
      m.beginSubscribe policy call request = m.answerCall call (.subscribed (.error e)) []) ∧
      (firstFailing (earlyChecks policy m request) = none →
        refusal? policy request = none ∧ ∃ sink, m.bound = some sink) := by
  unfold earlyChecks beginSubscribe refusal? Target.check AllowList.authorize
  cases Text.isBlankText request.target.ns with
  | true => simp [failsIf]
  | false =>
      cases Text.isBlankText request.target.name with
      | true => simp [failsIf]
      | false =>
          cases request.timeout.any Duration.isZero with
          | true => simp [failsIf]
          | false =>
              cases policy.allowList.admits request.target.ns with
              | false => simp [failsIf]
              | true => cases m.bound <;> simp [failsIf]

/-! ## How a setup concludes -/

/-- How a call returns whose setup is given answers, where `error` is that of the first check that
fails: with that error, or else it starts, unless the listed events cannot be taken in.  A call that
does not start asked some questions, returned, and did nothing else. -/
inductive Concludes (policy : Policy) (m : Manager σ) (call : Nat) (a : Answers) :
    Option MonitorError → Stepped σ → Prop where
  | refused {e : MonitorError} {m' : Manager σ} (questions : List Question)
      (done : m'.call? call = none) (asBefore : AsBefore call (m.without call) m') :
      Concludes policy m call a (some e)
        (m', questions.map Occurrence.asked ++ [.returned call (.subscribed (.error e))])
  | brokeDown {m' : Manager σ} (questions : List Question)
      (closed : policy.takesIn m.now a.events = false) (done : m'.call? call = none)
      (asBefore : AsBefore call (m.without call) m') :
      Concludes policy m call a none
        (m', questions.map Occurrence.asked ++ [.returned call .brokeDown])
  | started {m' : Manager σ} (questions : List Question) (said : List Occurrence)
      (opens : policy.takesIn m.now a.events = true) (done : m'.call? call = none) :
      Concludes policy m call a none
        (m', questions.map Occurrence.asked ++ said ++
          [.returned call (.subscribed (.ok .started))])

/-- Given as many of the answers as it asks for, a call concludes. -/
def ConcludesOn (policy : Policy) (sinks : SinkInterface σ) (m : Manager σ) (call : Nat)
    (a : Answers) (error : Option MonitorError) (labels : List Label) : Prop :=
  ∃ taken r, taken <+: labels ∧ m.run policy sinks taken = some r ∧
    Concludes policy m call a error r

@[simp]
theorem now_without (m : Manager σ) (call : Nat) : (m.without call).now = m.now := by
  unfold without
  split
  · rename_i p _
    cases p <;> rfl
  · rfl

/-- A step that asks and changes nothing but what the call holds comes before what it leads to. -/
theorem Concludes.after {r' : Stepped σ} {questions : List Question}
    (hasked : r.2 = questions.map Occurrence.asked)
    (hbefore : AsBefore call (m.without call) (r.1.without call))
    (h : Concludes policy r.1 call a error r') :
    Concludes policy m call a error (r'.1, r.2 ++ r'.2) := by
  have hnow : r.1.now = m.now := by
    rw [← now_without r.1 call, hbefore.now, now_without]
  rw [hasked]
  cases h with
  | refused later done asBefore =>
      rw [← List.append_assoc, ← List.map_append]
      exact .refused _ done (hbefore.trans asBefore)
  | brokeDown later closed done asBefore =>
      rw [← List.append_assoc, ← List.map_append]
      exact .brokeDown _ (hnow ▸ closed) done (hbefore.trans asBefore)
  | started later said opens done =>
      rw [← List.append_assoc, ← List.append_assoc, ← List.map_append]
      exact .started _ said (hnow ▸ opens) done

theorem ConcludesOn.after {labels : List Label} {question : Question}
    (hstep : m.step policy sinks label = some r) (hasked : r.2 = [.asked question])
    (hbefore : AsBefore call (m.without call) (r.1.without call))
    (h : ConcludesOn policy sinks r.1 call a error labels) :
    ConcludesOn policy sinks m call a error (label :: labels) := by
  obtain ⟨taken, r', htaken, hrun, hconcludes⟩ := h
  exact ⟨label :: taken, _, List.cons_prefix_cons.mpr ⟨rfl, htaken⟩,
    run_cons_eq_some_iff.mpr ⟨r, r', hstep, hrun, rfl⟩,
    Concludes.after (show r.2 = [question].map Occurrence.asked from hasked) hbefore hconcludes⟩

/-- A step in which the call concludes. -/
theorem ConcludesOn.of_step {labels : List Label} (hstep : m.step policy sinks label = some r)
    (h : Concludes policy m call a error r) :
    ConcludesOn policy sinks m call a error (label :: labels) := by
  refine ⟨[label], r, List.cons_prefix_cons.mpr ⟨rfl, List.nil_prefix⟩, ?_, h⟩
  refine run_cons_eq_some_iff.mpr ⟨r, (r.1, []), hstep, rfl, ?_⟩
  rw [List.append_nil]

/-- A setup that fails gives back all that it held. -/
theorem asBefore_failSetup {setup : Setup} (hpending : m.call? call = some (.settingUp setup)) :
    AsBefore call (m.without call)
      ((m.unregister setup.id setup.request.caller).dropCall call) := by
  rw [without_of_call? hpending]
  exact .refl call _

/-- A session opens exactly if the listed events can be taken in. -/
@[simp]
theorem openSession?_isSome (policy : Policy) (request : SubscribeRequest) (d : Deployment)
    (listed : List Event) (hearsEvents : Bool) (now : Instant) :
    (openSession? policy request d listed hearsEvents now).isSome =
      policy.takesIn now listed := by
  have hseeds := Subscription.seed_ok_iff (newSubscription policy request now) listed
    policy.config.eventSnapshotLimit now
  unfold openSession? Policy.takesIn
  cases policy.config.retention.fits with
  | false => rfl
  | true =>
      rw [if_pos rfl, Bool.true_and, Bool.eq_iff_iff]
      simp only [Bool.or_eq_true, beq_iff_eq, List.isEmpty_iff, or_assoc]
      refine Iff.trans ?_ hseeds
      unfold Subscription.openWith
      rcases (newSubscription policy request now).seed listed policy.config.eventSnapshotLimit now
        with ⟨seeded, result⟩
      cases result with
      | error fault => simp [Except.map, Except.toOption]
      | ok newest =>
          dsimp only
          split
          · simp [Except.map, Except.toOption]
          · simp [Except.map, Except.toOption]

/-! ## From stage to stage -/

section Stages

variable {setup : Setup} {d : Deployment}

theorem listing_concludes {hearsEvents : Bool}
    (hpending : m.call? call = some (.settingUp setup))
    (hstage : setup.stage = .listing d hearsEvents) :
    ConcludesOn policy sinks m call a none [.listed call a.listed] := by
  have hstep : m.step policy sinks (.listed call a.listed) =
      some (m.finishSetup policy sinks call setup d hearsEvents a.events) :=
    step_listed hpending hstage a.listed
  refine .of_step hstep ?_
  have hopens := openSession?_isSome policy setup.request d a.events hearsEvents m.now
  unfold finishSetup
  dsimp only
  split
  · rename_i hnone
    rw [hnone] at hopens
    exact .brokeDown [] hopens.symm (call?_dropCall _ _) (asBefore_failSetup hpending)
  · rename_i opening hopening
    rw [hopening] at hopens
    exact .started [] _ hopens.symm (call?_dropCall _ _)

theorem watchingEvents_concludes (hpending : m.call? call = some (.settingUp setup))
    (hstage : setup.stage = .watchingEvents d) :
    ConcludesOn policy sinks m call a none
      [.eventsWatched call a.eventsWatched, .listed call a.listed] := by
  have hstep : m.step policy sinks (.eventsWatched call a.eventsWatched) =
      some (m.advance call setup (.listing d a.eventsWatched.toOption.isSome)
        (.listEvents setup.request.target.ns)) := by
    simp only [step, hpending, Option.bind_some, takeEventsWatched, hstage]
  exact .after hstep rfl (asBefore_advance hpending _ _)
    (listing_concludes (call?_keepCall _ _ _) rfl)

theorem watching_concludes (hpending : m.call? call = some (.settingUp setup))
    (hstage : setup.stage = .watching d) :
    ConcludesOn policy sinks m call a a.watchError?
      [ .watched call a.watched, .eventsWatched call a.eventsWatched, .listed call a.listed ] := by
  cases hanswer : a.watched with
  | error e =>
      have hstep : m.step policy sinks (.watched call (.error e)) =
          some (m.failSetup call setup (.subscribed (.error (.watch e)))) := by
        simp only [step, hpending, Option.bind_some, takeWatched, hstage]
      rw [Answers.watchError?, hanswer]
      exact .of_step hstep (.refused [] (call?_dropCall _ _) (asBefore_failSetup hpending))
  | ok =>
      have hstep : m.step policy sinks (.watched call (.ok ())) =
          some (m.advance call setup (.watchingEvents d)
            (.watchEvents setup.request.target.ns)) := by
        simp only [step, hpending, Option.bind_some, takeWatched, hstage]
      rw [Answers.watchError?, hanswer]
      exact .after hstep rfl (asBefore_advance hpending _ _)
        (watchingEvents_concludes (call?_keepCall _ _ _) rfl)

theorem fetching_concludes (hpending : m.call? call = some (.settingUp setup))
    (hstage : setup.stage = .fetching) :
    ConcludesOn policy sinks m call a
      (firstFailing [ a.fetchError?, failsIf a.foundNothing (.notFound setup.request.target),
        a.watchError? ]) (a.labels call) := by
  cases hanswer : a.fetched with
  | error e =>
      have hstep : m.step policy sinks (.fetched call (.error e)) =
          some (m.failSetup call setup (.subscribed (.error (.watch e)))) := by
        simp only [step, hpending, Option.bind_some, takeFetched, hstage]
      rw [Answers.labels, Answers.fetchError?, hanswer]
      exact .of_step hstep (.refused [] (call?_dropCall _ _) (asBefore_failSetup hpending))
  | ok found =>
      cases found with
      | none =>
          have hstep : m.step policy sinks (.fetched call (.ok none)) =
              some (m.failSetup call setup
                (.subscribed (.error (.notFound setup.request.target)))) := by
            simp only [step, hpending, Option.bind_some, takeFetched, hstage]
          rw [Answers.labels, Answers.fetchError?, Answers.foundNothing, hanswer]
          exact .of_step hstep (.refused [] (call?_dropCall _ _) (asBefore_failSetup hpending))
      | some d =>
          have hstep : m.step policy sinks (.fetched call (.ok (some d))) =
              some (m.advance call setup (.watching d) (.watch setup.request.target)) := by
            simp only [step, hpending, Option.bind_some, takeFetched, hstage]
          rw [Answers.labels, Answers.fetchError?, Answers.foundNothing, hanswer]
          have hpassed : firstFailing
              [none, failsIf false (.notFound setup.request.target), a.watchError?] =
              a.watchError? := by
            cases a.watchError? <;> rfl
          rw [hpassed]
          exact .after hstep rfl (asBefore_advance hpending _ _)
            (watching_concludes (call?_keepCall _ _ _) rfl)

end Stages

/-- A call that finds its target free returns the error of the first check that fails, or it
starts. -/
theorem looks_conclude (hm : Tidy policy m) (hlooks : Looks policy m label call request sink)
    (hfree : m.lookup? request.target = none) (a : Answers) :
    ConcludesOn policy sinks m call a (firstFailing (lateChecks m request a))
      (label :: a.labels call) := by
  have hheld := asBefore_without hlooks.setupOf?
  have hfull : ∀ e, m.quota.acquire request.caller = .error e →
      ConcludesOn policy sinks m call a (some (.capacity e)) (label :: a.labels call) := by
    intro e hacquire
    have hstep : m.step policy sinks label =
        some (m.answerCall call (.subscribed (.error (.capacity e))) []) := by
      rw [hlooks.step_eq, attempt, hfree]
      simp only [hacquire]
    exact .of_step hstep
      (.refused [] (m.call?_dropCall call) (hheld.symm.trans (m.asBefore_dropCall call)))
  by_cases hglobal : m.quota.globalLimit ≤ m.quota.inUse
  · simp only [lateChecks, failsIf, decide_eq_true hglobal, if_true, firstFailing_failed]
    exact hfull _ (by rw [Quota.acquire, if_pos hglobal])
  · simp only [lateChecks, failsIf, decide_eq_false hglobal, Bool.false_eq_true, if_false,
      firstFailing_passed]
    by_cases hcaller : m.quota.perCallerLimit ≤ m.quota.heldBy request.caller
    · simp only [decide_eq_true hcaller, if_true, firstFailing_failed]
      exact hfull _ (by rw [Quota.acquire, if_neg hglobal, if_pos hcaller])
    · simp only [decide_eq_false hcaller, Bool.false_eq_true, if_false, firstFailing_passed]
      obtain ⟨quota, hroom⟩ := (m.quota.acquire_eq_ok_iff request.caller).mpr
        ⟨Nat.lt_of_not_le hglobal, Nat.lt_of_not_le hcaller⟩
      have hstep : m.step policy sinks label =
          some (m.beginSetup call request sink quota, [.asked (.fetch request.target)]) := by
        rw [hlooks.step_eq, attempt, hfree]
        simp only [hroom]
        rfl
      exact .after hstep rfl (hheld.symm.trans (asBefore_beginSetup hm hroom))
        (fetching_concludes (call?_keepCall _ _ _) rfl)

/-- A refusal is counted once, and nothing else is. -/
theorem Concludes.counted {e : MonitorError} (h : Concludes policy m call a (some e) r)
    (metrics : Metrics) : metrics.CountsRefusal (metrics.recordAll r.2) e.label := by
  cases h with
  | refused questions done asBefore =>
      rw [Metrics.recordAll_asked]
      exact metrics.countsRefusal_countRejected e.label

/-! ## Questions -/

/-- The target of the call that takes a step. -/
def targetOf? (m : Manager σ) : Label → Option Target
  | .subscribe _ request => some request.target
  | .readState _ target => some target
  | label => label.call?.bind fun call => (m.call? call).bind PendingCall.target?

/-- A question is about the target of the call that asks, which may be asked about; and a watch is
asked for only when the deployment was found. -/
structure AsksRightly (policy : Policy) (m : Manager σ) (label : Label) (question : Question) :
    Prop where
  target : ∃ target, m.targetOf? label = some target ∧ question.concerns target ∧
    policy.Admits target
  watch : ∀ target, question = .watch target → ∃ call d, label = .fetched call (.ok (some d))
  watchEvents : ∀ ns, question = .watchEvents ns → ∃ call, label = .watched call (.ok ())

theorem Act.asksRightly (hm : Tidy policy m) (h : Act policy sinks m label r) {question : Question}
    (hasked : .asked question ∈ r.2) : AsksRightly policy m label question := by
  cases h.asks hasked with
  | @looks _ call request sink looks =>
      refine ⟨⟨request.target, ?_, rfl, hm.admits_of_looks looks⟩, nofun, nofun⟩
      cases looks with
      | anew => rfl
      | again waiting =>
          show (m.call? call).bind PendingCall.target? = _
          rw [waiting]
          rfl
  | reads sound allowed =>
      exact ⟨⟨_, rfl, rfl, Policy.admits_iff.mpr ⟨sound, allowed⟩⟩, nofun, nofun⟩
  | @advances _ call setup stage _ pending advances =>
      have hadmits := hm.admits_of_call? pending rfl
      have htarget : (m.call? call).bind PendingCall.target? = some setup.request.target := by
        rw [pending]
        rfl
      cases advances with
      | found d => exact ⟨⟨_, htarget, rfl, hadmits⟩, fun _ _ => ⟨call, d, rfl⟩, nofun⟩
      | watched d => exact ⟨⟨_, htarget, rfl, hadmits⟩, nofun, fun _ _ => ⟨call, rfl⟩⟩
      | eventsWatched d answer => exact ⟨⟨_, htarget, rfl, hadmits⟩, nofun, nofun⟩

/-! ## Runs -/

/-- What becomes of a new call to subscribe: it fails the first of its early checks that fails, and
nothing changes; or it looks at the registry. -/
structure ChecksFirst (policy : Policy) (sinks : SinkInterface σ) (m : Manager σ) (call : Nat)
    (request : SubscribeRequest) : Prop where
  refused : ∀ e, firstFailing (earlyChecks policy m request) = some e →
    ∃ occurred, m.step policy sinks (.subscribe call request) = some (m, occurred) ∧
      occurred = [.returned call (.subscribed (.error e))] ∧
      ∀ metrics : Metrics, metrics.CountsRefusal (metrics.recordAll occurred) e.label
  looks : firstFailing (earlyChecks policy m request) = none →
    ∃ sink, Looks policy m (.subscribe call request) call request sink

/-- What becomes of a call that looks at the registry: where its target has a subscription it
returns at once, whatever the quota says, and nothing is changed, asked or counted; it waits where
one is being set up; and where its target is free, the late checks decide. -/
structure LooksThrough (policy : Policy) (sinks : SinkInterface σ) (m : Manager σ) (label : Label)
    (call : Nat) (request : SubscribeRequest) (sink : Nat) : Prop where
  active : ∀ e, m.lookup? request.target = some e → e.id ∈ m.announced →
    ∃ occurred, m.step policy sinks label = some (m.dropCall call, occurred) ∧
      occurred = [.returned call (.subscribed (.ok .alreadyActive))] ∧
      ∀ metrics : Metrics, metrics.recordAll occurred = metrics
  waits : ∀ e, m.lookup? request.target = some e → e.id ∉ m.announced →
    m.step policy sinks label = some (m.keepCall call (.waiting e.id request sink), [])
  free : m.lookup? request.target = none → ∀ a : Answers,
    ∃ taken r, taken <+: label :: a.labels call ∧ m.run policy sinks taken = some r ∧
      Concludes policy m call a (firstFailing (lateChecks m request a)) r ∧
      ∀ e, firstFailing (lateChecks m request a) = some e → ∀ metrics : Metrics,
        metrics.CountsRefusal (metrics.recordAll r.2) e.label

theorem checksFirst (hfresh : m.call? call = none) : ChecksFirst policy sinks m call request where
  refused e hfails := by
    refine ⟨_, ?_, rfl, fun metrics => metrics.countsRefusal_countRejected e.label⟩
    rw [step, ifFresh, hfresh, (beginSubscribe_eq policy m call request).1 e hfails, answerCall,
      dropCall_of_fresh hfresh]
    rfl
  looks hpasses := by
    obtain ⟨hrefusal, sink, hbound⟩ := (beginSubscribe_eq policy m call request).2 hpasses
    exact ⟨sink, .anew hfresh hrefusal hbound⟩

theorem looksThrough (hm : Tidy policy m) (hlooks : Looks policy m label call request sink) :
    LooksThrough policy sinks m label call request sink where
  active e hfound hannounced := by
    refine ⟨_, ?_, rfl, fun metrics => rfl⟩
    rw [hlooks.step_eq, attempt, hfound]
    simp [hannounced, answerCall]
  waits e hfound hunannounced := by
    rw [hlooks.step_eq, attempt, hfound]
    simp [hunannounced]
  free hfree a := by
    obtain ⟨taken, r, htaken, hrun, hconcludes⟩ : ConcludesOn policy sinks m call a _ _ :=
      looks_conclude hm hlooks hfree a
    refine ⟨taken, r, htaken, hrun, hconcludes, fun e hfails => ?_⟩
    rw [hfails] at hconcludes
    exact hconcludes.counted

/-- Whatever slots are taken at the start, every run leaves a manager tidy. -/
theorem run_tidy {now : Instant} {world : σ} {bound : Option Nat} {quota : Quota}
    (hnames : (quota.held.map Prod.fst).Nodup) {labels : List Label} {occurred : List Occurrence}
    (hrun : (Manager.start now world bound quota).run policy sinks labels = some (m, occurred)) :
    Tidy policy m := by
  refine run_induction (motive := fun m _ => Tidy policy m) ?_ ?_ hrun
  · intro m before label m' occurred _ hm hstep
    exact (step_acts hstep).tidy hm
  · exact ⟨marked_start now world bound quota, hnames, fun _ hc => absurd hc List.not_mem_nil⟩

/-- In every state that a manager can reach, with whatever slots are taken when it starts: a call to
subscribe fails with the error of the first check that fails, in the order of its steps; no step of
a call changes anything but what the call itself holds, up to the one in which its subscription
starts, and all that is counted is its refusal; and nobody is asked about a target that is blank or
may not be read, or for the watch of one that was not found. -/
theorem refusals_leave_no_trace {now : Instant} {world : σ} {bound : Option Nat} {quota : Quota}
    (hnames : (quota.held.map Prod.fst).Nodup) {labels : List Label} {occurred : List Occurrence}
    (hrun : (Manager.start now world bound quota).run policy sinks labels = some (m, occurred)) :
    (∀ call request, m.call? call = none → ChecksFirst policy sinks m call request) ∧
      (∀ label call request sink, Looks policy m label call request sink →
        LooksThrough policy sinks m label call request sink) ∧
      (∀ label call r, Subscribes m label call → m.step policy sinks label = some r →
        .returned call (.subscribed (.ok .started)) ∉ r.2 →
          LeavesNoTrace m call r ∧ ∀ metrics : Metrics,
            (∀ e, .returned call (.subscribed (.error e)) ∈ r.2 →
              metrics.CountsRefusal (metrics.recordAll r.2) e.label) ∧
              ((∀ e, .returned call (.subscribed (.error e)) ∉ r.2) →
                metrics.recordAll r.2 = metrics)) ∧
      ∀ label r question, m.step policy sinks label = some r → .asked question ∈ r.2 →
        AsksRightly policy m label question := by
  have hm : Tidy policy m := run_tidy hnames hrun
  refine ⟨fun call request hfresh => checksFirst hfresh, ?_, ?_, ?_⟩
  · intro label call request sink hlooks
    exact looksThrough hm hlooks
  · intro label call r hsubscribes hstep hgoing
    have hleaves := (step_acts hstep).leavesNoTrace hm hsubscribes hgoing
    exact ⟨hleaves, hleaves.counted⟩
  · intro label r question hstep hasked
    exact (step_acts hstep).asksRightly hm hasked

/-- The only slot there is goes to one subscription.  Another call about its target has nothing left
to do; one about another target is refused for the limit of all callers, whatever the collaborators
would answer; and one without a name is refused for that, although its timeout is zero as well. -/
theorem refusals_leave_no_trace_of_exhausted_quota :
    ∃ m occurred,
      (Manager.start default () (some 0) (Quota.new 1 1)).run Policy.standard .accepting
        (Label.setup 1 ⟨"ann", ⟨"ns", "a"⟩, none⟩ .blank []) = some (m, occurred) ∧
      m.quota.inUse = 1 ∧
      m.step Policy.standard .accepting (.subscribe 2 ⟨"ann", ⟨"ns", "a"⟩, none⟩) =
        some (m.dropCall 2, [.returned 2 (.subscribed (.ok .alreadyActive))]) ∧
      (∀ a : Answers, ∃ taken r,
        m.run Policy.standard .accepting taken = some r ∧
          Concludes Policy.standard m 2 a (some (.capacity (.globalLimit 1))) r) ∧
      m.step Policy.standard .accepting (.subscribe 2 ⟨"ann", ⟨"ns", " "⟩, some ⟨0⟩⟩) =
        some (m, [.returned 2 (.subscribed (.error (.request .missingName)))]) := by
  have hends : ((Manager.start default () (some 0) (Quota.new 1 1)).run Policy.standard .accepting
      (Label.setup 1 ⟨"ann", ⟨"ns", "a"⟩, none⟩ .blank [])).map (fun r =>
        ((r.1.call? 2).isNone, r.1.bound, r.1.announced, r.1.registry)) =
      some (true, some 0, [1], [⟨1, ⟨"ns", "a"⟩, false⟩]) := by
    decide +kernel
  have hlimits : ((Manager.start default () (some 0) (Quota.new 1 1)).run Policy.standard .accepting
      (Label.setup 1 ⟨"ann", ⟨"ns", "a"⟩, none⟩ .blank [])).map (fun r =>
        (r.1.quota.globalLimit, r.1.quota.inUse)) = some (1, 1) := by
    decide +kernel
  obtain ⟨⟨m, occurred⟩, hrun, hread⟩ := Option.map_eq_some_iff.mp hends
  rw [hrun, Option.map_some] at hlimits
  simp only [Prod.mk.injEq, Option.some.injEq] at hread hlimits
  obtain ⟨hcall, hbound, hannounced, hregistry⟩ := hread
  obtain ⟨hglobal, hinUse⟩ := hlimits
  have hfresh : m.call? 2 = none := by simpa using hcall
  have hnames : ((Quota.new 1 1).held.map Prod.fst).Nodup := List.nodup_nil
  obtain ⟨hearly, hlooks, -, -⟩ := refusals_leave_no_trace hnames hrun
  have hactive := (hlooks _ 2 ⟨"ann", ⟨"ns", "a"⟩, none⟩ 0
    (.anew hfresh (by decide) hbound)).active ⟨1, ⟨"ns", "a"⟩, false⟩
      (by rw [lookup?, hregistry]; decide) (by rw [hannounced]; decide)
  obtain ⟨_, hactive, rfl, -⟩ := hactive
  refine ⟨m, occurred, hrun, hinUse, hactive, ?_, ?_⟩
  · intro a
    obtain ⟨taken, r, -, htaken, hconcludes, -⟩ := (hlooks _ 2 ⟨"bob", ⟨"ns", "b"⟩, none⟩ 0
      (.anew hfresh (by decide) hbound)).free (by rw [lookup?, hregistry]; decide) a
    refine ⟨taken, r, htaken, ?_⟩
    simpa [lateChecks, failsIf, hglobal, hinUse] using hconcludes
  · have hblank : Text.isBlankText "ns" = false ∧ Text.isBlankText " " = true := by decide
    obtain ⟨_, hrefused, rfl, -⟩ := (hearly 2 ⟨"ann", ⟨"ns", " "⟩, some ⟨0⟩⟩ hfresh).refused
      (.request .missingName) (by simp [earlyChecks, failsIf, hblank])
    exact hrefused

end Manager
end ProvisionWatch

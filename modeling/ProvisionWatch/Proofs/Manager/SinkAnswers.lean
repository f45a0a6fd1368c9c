import ProvisionWatch.Proofs.Manager.InStep

/-!
# What the answers of sinks decide

A sink takes an update or refuses it, and the manager makes nothing of the
answer: it is only told what became of the update.  So a manager is followed just
as well without its sinks, as if all that is handed over were taken.

Main results:

- Theorem `step_withoutSinks`: without its sinks a manager takes the same steps.
- Theorem `run_withoutSinks`: and the same runs.
- Theorem `answers_decide_nothing`: two runs that differ in the sinks agree at
  every step in all but the answers, and what was refused is not handed over
  again.
-/

namespace ProvisionWatch

/-! ## Without sinks -/

/-- An occurrence as if the sink had taken what it was handed. -/
def Occurrence.accepted : Occurrence → Occurrence
  | delivered sink target u (.refused _) => delivered sink target u .published
  | o => o

/-- What is read off an update alike whether it was taken or refused is not changed by the
answers. -/
theorem Occurrence.apply_accepted {β : Type} {f : Occurrence → β}
    (h : ∀ sink target u e,
      f (.delivered sink target u .published) = f (.delivered sink target u (.refused e)))
    (o : Occurrence) : f o.accepted = f o := by
  cases o with
  | delivered sink target u fate =>
      cases fate with
      | refused e => exact h sink target u e
      | published | coalesced => rfl
  | asked | returned | opened | watchError | stalled | closed => rfl

namespace Manager

variable {σ : Type} {policy : Policy} {sinks : SinkInterface σ}

/-- A manager without the state of its sinks. -/
def withoutSinks (m : Manager σ) : Manager Unit :=
  { now := m.now
    sinks := ()
    bound := m.bound
    quota := m.quota
    nextId := m.nextId
    registry := m.registry
    announced := m.announced
    done := m.done
    calls := m.calls
    workers := m.workers }

/-- The result of a step without the sinks, as if they had taken what they were handed. -/
def Stepped.withoutSinks (r : Stepped σ) : Stepped Unit :=
  (r.1.withoutSinks, r.2.map Occurrence.accepted)

/-! ## Without sinks, one thing at a time -/

@[simp]
theorem accepted_perform (sink : Nat) (target : Target) (world : σ) (e : Effect) :
    (perform sinks sink target world e).2.accepted = (perform .accepting sink target () e).2 := by
  cases e with
  | delivery d =>
      cases d with
      | offered u =>
          simp only [perform]
          rcases sinks.offer world sink target u with ⟨next, answer⟩
          cases answer <;> rfl
      | coalesced u => rfl
  | watchError stream kind => rfl
  | stall => rfl

@[simp]
theorem accepted_performAll (sink : Nat) (target : Target) (world : σ) (effects : List Effect) :
    (performAll sinks sink target world effects).2.map Occurrence.accepted =
      (performAll .accepting sink target () effects).2 := by
  induction effects generalizing world with
  | nil => rfl
  | cons e rest ih =>
      simp only [performAll, List.map_cons, ih, accepted_perform]

@[simp]
theorem withoutSinks_attempt (m : Manager σ) (call : Nat) (request : SubscribeRequest)
    (sink : Nat) :
    Stepped.withoutSinks (m.attempt call request sink) =
      m.withoutSinks.attempt call request sink := by
  unfold attempt
  rw [show m.withoutSinks.lookup? request.target = m.lookup? request.target from rfl]
  cases m.lookup? request.target with
  | some entry => exact apply_ite Stepped.withoutSinks _ _ _
  | none =>
      rw [show m.withoutSinks.quota = m.quota from rfl]
      cases m.quota.acquire request.caller <;> rfl

@[simp]
theorem withoutSinks_beginSubscribe (m : Manager σ) (call : Nat) (request : SubscribeRequest) :
    Stepped.withoutSinks (m.beginSubscribe policy call request) =
      m.withoutSinks.beginSubscribe policy call request := by
  unfold beginSubscribe
  rw [show m.withoutSinks.bound = m.bound from rfl]
  cases refusal? policy request with
  | some e => rfl
  | none =>
      cases m.bound with
      | none => rfl
      | some sink => exact m.withoutSinks_attempt call request sink

@[simp]
theorem withoutSinks_beginStop (m : Manager σ) (call : Nat) (test : Entry → Bool) :
    Stepped.withoutSinks (m.beginStop call test) = m.withoutSinks.beginStop call test :=
  apply_ite Stepped.withoutSinks _ _ _

@[simp]
theorem withoutSinks_beginRead (m : Manager σ) (call : Nat) (target : Target) :
    Stepped.withoutSinks (m.beginRead policy call target) =
      m.withoutSinks.beginRead policy call target := by
  unfold beginRead
  cases target.check with
  | some e => rfl
  | none => cases policy.allowList.authorize target.ns <;> rfl

@[simp]
theorem withoutSinks_takeFetched (m : Manager σ) (call : Nat)
    (answer : Except WatchError (Option Deployment)) (p : PendingCall) :
    (m.takeFetched call answer p).map Stepped.withoutSinks =
      m.withoutSinks.takeFetched call answer p := by
  cases p with
  | settingUp setup =>
      unfold takeFetched
      dsimp only
      split <;> rfl
  | waiting | stopping | reading => rfl

@[simp]
theorem withoutSinks_takeWatched (m : Manager σ) (call : Nat) (answer : Except WatchError Unit)
    (p : PendingCall) :
    (m.takeWatched call answer p).map Stepped.withoutSinks =
      m.withoutSinks.takeWatched call answer p := by
  cases p with
  | settingUp setup =>
      unfold takeWatched
      dsimp only
      split <;> rfl
  | waiting | stopping | reading => rfl

@[simp]
theorem withoutSinks_takeEventsWatched (m : Manager σ) (call : Nat)
    (answer : Except WatchError Unit) (p : PendingCall) :
    (m.takeEventsWatched call answer p).map Stepped.withoutSinks =
      m.withoutSinks.takeEventsWatched call answer p := by
  cases p with
  | settingUp setup =>
      unfold takeEventsWatched
      dsimp only
      cases setup.stage <;> rfl
  | waiting | stopping | reading => rfl

@[simp]
theorem withoutSinks_finishSetup (m : Manager σ) (call : Nat) (setup : Setup) (d : Deployment)
    (hearsEvents : Bool) (listed : List Event) :
    Stepped.withoutSinks (m.finishSetup policy sinks call setup d hearsEvents listed) =
      m.withoutSinks.finishSetup policy .accepting call setup d hearsEvents listed := by
  unfold finishSetup
  dsimp only
  rw [show m.withoutSinks.now = m.now from rfl]
  cases openSession? policy setup.request d listed hearsEvents m.now with
  | none => rfl
  | some opening =>
      simp only [Stepped.withoutSinks, answerCall, List.map_append, accepted_performAll]
      rfl

@[simp]
theorem withoutSinks_takeListed (m : Manager σ) (call : Nat)
    (answer : Except WatchError (List Event)) (p : PendingCall) :
    (m.takeListed policy sinks call answer p).map Stepped.withoutSinks =
      m.withoutSinks.takeListed policy .accepting call answer p := by
  cases p with
  | settingUp setup =>
      unfold takeListed
      dsimp only
      cases setup.stage with
      | listing d hearsEvents =>
          exact congrArg some (m.withoutSinks_finishSetup call setup d hearsEvents _)
      | fetching | watching | watchingEvents => rfl
  | waiting | stopping | reading => rfl

@[simp]
theorem withoutSinks_resume (m : Manager σ) (call : Nat) (p : PendingCall) :
    (m.resume call p).map Stepped.withoutSinks = m.withoutSinks.resume call p := by
  cases p with
  | waiting entry request sink =>
      unfold resume
      dsimp only
      rw [show m.withoutSinks.announced = m.announced from rfl,
        show m.withoutSinks.isRegistered entry = m.isRegistered entry from rfl]
      split
      · rfl
      · split
        · rfl
        · exact congrArg some (m.withoutSinks_attempt call request sink)
  | stopping entries => exact apply_ite (Option.map Stepped.withoutSinks) _ _ _
  | settingUp | reading => rfl

@[simp]
theorem withoutSinks_workOn (m : Manager σ) (w : Worker) (signal : Signal) (inbox : Inbox) :
    Stepped.withoutSinks (workOn sinks m w signal inbox) =
      workOn .accepting m.withoutSinks w signal inbox := by
  unfold workOn
  dsimp only
  rw [show m.withoutSinks.now = m.now from rfl]
  cases (w.session.take m.now signal).ending with
  | some ending =>
      simp only [Stepped.withoutSinks, endWorker, List.map_append, accepted_performAll]
      rfl
  | none =>
      simp only [Stepped.withoutSinks, accepted_performAll]
      rfl

@[simp]
theorem withoutSinks_work (m : Manager σ) (w : Worker) :
    (m.work policy sinks w).map Stepped.withoutSinks =
      m.withoutSinks.work policy .accepting w := by
  unfold work
  rw [show m.withoutSinks.isCancelled w.id = m.isCancelled w.id from rfl]
  split
  · rfl
  · split
    · rfl
    · cases w.inbox.next? (m.isCancelled w.id) w.session.hearsEvents with
      | none => rfl
      | some next => exact congrArg some (m.withoutSinks_workOn w next.1 next.2)

@[simp]
theorem withoutSinks_arrive (m : Manager σ) (target : Target) (input : Input) :
    (m.arrive target input).map withoutSinks = m.withoutSinks.arrive target input := by
  unfold arrive
  rw [show m.withoutSinks.worker? target = m.worker? target from rfl,
    show m.withoutSinks.setup? target = m.setup? target from rfl]
  cases m.worker? target with
  | some w => rfl
  | none =>
      cases m.setup? target with
      | none => rfl
      | some found => exact apply_ite (Option.map withoutSinks) _ _ _

theorem withoutSinks_ifFresh (m : Manager σ) (call : Nat) {result : Stepped σ}
    {result' : Stepped Unit} (h : Stepped.withoutSinks result = result') :
    (m.ifFresh call result).map Stepped.withoutSinks = m.withoutSinks.ifFresh call result' := by
  subst h
  exact apply_ite (Option.map Stepped.withoutSinks) _ _ _

/-! ## Steps and runs -/

/-- Without its sinks a manager takes the same steps. -/
theorem step_withoutSinks (m : Manager σ) (label : Label) :
    (m.step policy sinks label).map Stepped.withoutSinks =
      m.withoutSinks.step policy .accepting label := by
  have hpending : ∀ {call : Nat} {f : PendingCall → Option (Stepped σ)}
      {g : PendingCall → Option (Stepped Unit)},
      (∀ p, (f p).map Stepped.withoutSinks = g p) →
        ((m.call? call).bind f).map Stepped.withoutSinks = (m.withoutSinks.call? call).bind g := by
    intro call f g h
    rw [show m.withoutSinks.call? call = m.call? call from rfl]
    cases m.call? call with
    | none => rfl
    | some p => exact h p
  cases label with
  | subscribe call request =>
      exact m.withoutSinks_ifFresh call (m.withoutSinks_beginSubscribe call request)
  | unsubscribe call target => exact m.withoutSinks_ifFresh call (m.withoutSinks_beginStop call _)
  | shutdown call => exact m.withoutSinks_ifFresh call (m.withoutSinks_beginStop call _)
  | readState call target =>
      exact m.withoutSinks_ifFresh call (m.withoutSinks_beginRead call target)
  | fetched call answer => exact hpending (m.withoutSinks_takeFetched call answer)
  | watched call answer => exact hpending (m.withoutSinks_takeWatched call answer)
  | eventsWatched call answer => exact hpending (m.withoutSinks_takeEventsWatched call answer)
  | listed call answer => exact hpending (m.withoutSinks_takeListed call answer)
  | resume call => exact hpending (m.withoutSinks_resume call)
  | abandon call =>
      simp only [step, Option.map_map]
      rw [show m.withoutSinks.call? call = m.call? call from rfl]
      cases m.call? call with
      | none => rfl
      | some p => cases p <;> rfl
  | arrive target input =>
      simp only [step, Option.map_map, ← withoutSinks_arrive]
      rfl
  | work target =>
      simp only [step]
      rw [show m.withoutSinks.worker? target = m.worker? target from rfl]
      cases m.worker? target with
      | none => rfl
      | some w => exact m.withoutSinks_work w
  | setClock now => rfl
  | bind sink => rfl

/-- Without its sinks a manager takes the same runs. -/
theorem run_withoutSinks (m : Manager σ) (labels : List Label) :
    (m.run policy sinks labels).map Stepped.withoutSinks =
      m.withoutSinks.run policy .accepting labels := by
  induction labels generalizing m with
  | nil => rfl
  | cons label rest ih =>
      have hstep : (m.step policy sinks label).map Stepped.withoutSinks =
          m.withoutSinks.step policy .accepting label :=
        m.step_withoutSinks label
      simp only [run]
      rw [← hstep]
      cases m.step policy sinks label with
      | none => rfl
      | some first =>
          simp only [Option.map_some, Stepped.withoutSinks, ← ih, Option.map_map]
          congr 1
          funext later
          simp [Stepped.withoutSinks]

/-- Whoever gets through steps gets through the first ones. -/
theorem exists_run_of_prefix {m : Manager σ} {taken labels : List Label} (h : taken <+: labels)
    {r : Stepped σ} (hrun : m.run policy sinks labels = some r) :
    ∃ first, m.run policy sinks taken = some first := by
  induction taken generalizing m labels r with
  | nil => exact ⟨_, rfl⟩
  | cons label rest ih =>
      obtain ⟨later, rfl⟩ := h
      obtain ⟨first, last, hfirst, hlast, -⟩ := run_cons_eq_some_iff.mp hrun
      obtain ⟨second, hsecond⟩ := ih (List.prefix_append rest later) hlast
      exact ⟨_, run_cons_eq_some_iff.mpr ⟨first, second, hfirst, hsecond, rfl⟩⟩

end Manager

/-! ## Counting what was handed over -/

/-- An update was handed to a sink. -/
def Occurrence.isHandedOver : Occurrence → Bool
  | delivered _ _ _ fate => fate != .coalesced
  | asked _ | returned _ _ | opened _ | watchError _ _ _ | stalled _ | closed _ _ => false

@[simp]
theorem Occurrence.isHandedOver_accepted (o : Occurrence) :
    o.accepted.isHandedOver = o.isHandedOver :=
  o.apply_accepted fun _ _ _ _ => rfl

namespace Metrics

/-- What was handed over is counted once, taken or refused, and nothing else is. -/
theorem handedOver_record (counts : Metrics) (o : Occurrence) :
    (counts.record o).handedOver = counts.handedOver + if o.isHandedOver then 1 else 0 := by
  cases o with
  | delivered sink target u fate =>
      rw [show counts.record (.delivered sink target u fate) = counts.recordFate u fate from rfl,
        (counts.recordFate_counts u fate).2]
      cases fate <;> rfl
  | returned call result =>
      cases result with
      | subscribed outcome => cases outcome <;> rfl
      | brokeDown | stopped | state => rfl
  | asked | opened | watchError | stalled | closed => rfl

@[simp]
theorem handedOver_recordAll (counts : Metrics) (occurred : List Occurrence) :
    (counts.recordAll occurred).handedOver =
      counts.handedOver + occurred.countP Occurrence.isHandedOver := by
  induction occurred generalizing counts with
  | nil => rfl
  | cons o rest ih =>
      rw [show counts.recordAll (o :: rest) = (counts.record o).recordAll rest from rfl, ih,
        handedOver_record, List.countP_cons]
      omega

/-- Whatever the sinks answered, as much was handed over. -/
theorem handedOver_congr (counts : Metrics) {occurred occurred' : List Occurrence}
    (h : occurred'.map Occurrence.accepted = occurred.map Occurrence.accepted) :
    (counts.recordAll occurred').handedOver = (counts.recordAll occurred).handedOver := by
  have hcount : ∀ l : List Occurrence,
      l.countP Occurrence.isHandedOver =
        (l.map Occurrence.accepted).countP Occurrence.isHandedOver := by
    intro l
    rw [List.countP_map]
    exact List.countP_congr fun o _ => by rw [Function.comp_apply, o.isHandedOver_accepted]
  rw [handedOver_recordAll, handedOver_recordAll, hcount occurred', hcount occurred, h]

end Metrics

/-! ## What was refused -/

/-- After an update was handed over, taken or refused, the same is not handed over again before
something else is, unless it is said as a last word. -/
theorem Coalesced.holds_back {occurred before between later : List Occurrence} {sink sink' : Nat}
    {target : Target} {u v : Update} {fate fate' : Fate} (h : Coalesced occurred)
    (hsplit : occurred = before ++ .delivered sink target u fate ::
      (between ++ .delivered sink' target v fate' :: later))
    (hbetween : (streamsOf target
      (before ++ .delivered sink target u fate :: between)).current.getLast? = some u)
    (hsame : v.said = u.said) (hgoing : v.terminal = false) : fate' = .coalesced := by
  have hassoc : occurred = (before ++ .delivered sink target u fate :: between) ++
      .delivered sink' target v fate' :: later := by
    rw [hsplit, List.append_assoc, List.cons_append]
  have hlaw := h _ sink' target v fate' later hassoc
  rw [hbetween] at hlaw
  by_contra hne
  rcases hlaw.mp hne with hterminal | hdiffers
  · rw [hgoing] at hterminal
    cases hterminal
  · obtain ⟨hphase, hmessage, hreason⟩ := (Update.said_eq_iff v u).mp hsame
    rcases hdiffers with hdiffers | hdiffers | hdiffers
    · exact hdiffers hphase
    · exact hdiffers hmessage
    · exact hdiffers hreason

/-- What was refused is not handed over again: as long as it is the last that was handed over in its
stream, the same is held back, unless it is said as a last word. -/
def RefusalsStand (occurred : List Occurrence) : Prop :=
  ∀ before between later sink sink' target u v e fate,
    occurred = before ++ .delivered sink target u (.refused e) ::
      (between ++ .delivered sink' target v fate :: later) →
    (streamsOf target
      (before ++ .delivered sink target u (.refused e) :: between)).current.getLast? = some u →
    v.said = u.said → v.terminal = false → fate = .coalesced

namespace Manager

variable {σ τ : Type} {policy : Policy} {sinks : SinkInterface σ} {sinks' : SinkInterface τ}

/-! ## Two runs -/

/-- Two outcomes agree in all but the sinks and their answers. -/
structure Agree (r : Stepped σ) (r' : Stepped τ) : Prop where
  /-- The same clock, registry, quotas, calls and workers. -/
  state : r'.1.withoutSinks = r.1.withoutSinks
  /-- The same was handed over, and the same results and endings occurred, in the same order. -/
  occurred : r'.2.map Occurrence.accepted = r.2.map Occurrence.accepted
  /-- As much was handed over, taken and refused together. -/
  handedOver : ∀ counts : Metrics,
    (counts.recordAll r'.2).handedOver = (counts.recordAll r.2).handedOver

/-- Two runs with the same steps, whose sinks take and refuse what they like, agree at every step in
all but the answers of the sinks.  What is handed over is decided by what was handed over before,
taken or not, so what was refused is not handed over again. -/
theorem answers_decide_nothing {perCallerLimit globalLimit : Nat} {now : Instant} {world : σ}
    (world' : τ) {bound : Option Nat} {labels : List Label} {m : Manager σ}
    {occurred : List Occurrence}
    (hrun : (Manager.start now world bound (Quota.new perCallerLimit globalLimit)).run policy sinks
      labels = some (m, occurred)) :
    (∀ taken, taken <+: labels → ∃ r r',
      (Manager.start now world bound (Quota.new perCallerLimit globalLimit)).run policy sinks
          taken = some r ∧
        (Manager.start now world' bound (Quota.new perCallerLimit globalLimit)).run policy sinks'
          taken = some r' ∧
        Agree r r') ∧
      Coalesced occurred ∧ RefusalsStand occurred := by
  have hcoalesced : Coalesced occurred := (run_attuned hrun).coalesced
  refine ⟨?_, hcoalesced, ?_⟩
  · intro taken htaken
    obtain ⟨r, hr⟩ := exists_run_of_prefix htaken hrun
    have herased := @run_withoutSinks σ policy sinks
      (Manager.start now world bound (Quota.new perCallerLimit globalLimit)) taken
    have herased' := @run_withoutSinks τ policy sinks'
      (Manager.start now world' bound (Quota.new perCallerLimit globalLimit)) taken
    rw [hr, Option.map_some] at herased
    obtain ⟨r', hr', hsame⟩ := Option.map_eq_some_iff.mp (herased'.trans herased.symm)
    obtain ⟨hstate, hoccurred⟩ := Prod.mk.inj hsame
    exact ⟨r, r', hr, hr', hstate, hoccurred, fun counts => counts.handedOver_congr hoccurred⟩
  · intro before between later sink sink' target u v e fate hsplit hbetween hsame hgoing
    exact hcoalesced.holds_back hsplit hbetween hsame hgoing

/-- Of the two sinks one is full, the other takes everything.  The stream of events fails twice with
the same error, and only the first failure is handed over, though the full sink refuses it; then the
deployment is deleted. -/
theorem answers_decide_nothing_of_full_sink :
    let labels : List Label :=
      Label.setup 1 ⟨"ann", ⟨"ns", "a"⟩, none⟩ .blank [] ++
        [ .arrive ⟨"ns", "a"⟩ (.event (.error (.stream "gone"))), .work ⟨"ns", "a"⟩,
          .arrive ⟨"ns", "a"⟩ (.event (.error (.stream "gone"))), .work ⟨"ns", "a"⟩,
          .arrive ⟨"ns", "a"⟩ (.resource (.change ⟨.blank, .deleted⟩)), .work ⟨"ns", "a"⟩ ]
    ∃ m occurred,
      (Manager.start default () (some 0) (Quota.new 10 100)).run Policy.standard .refusing labels =
        some (m, occurred) ∧
      occurred.filterMap (fun | .delivered _ _ u fate => some (u.reason, fate) | _ => none) =
        [ ("Initializing", .refused .full), ("EventStreamError", .refused .full),
          ("EventStreamError", .coalesced), ("ResourceDeleted", .refused .full) ] ∧
      (∀ taken, taken <+: labels → ∃ r r' : Stepped Unit,
        (Manager.start default () (some 0) (Quota.new 10 100)).run Policy.standard .refusing
            taken = some r ∧
          (Manager.start default () (some 0) (Quota.new 10 100)).run Policy.standard .accepting
            taken = some r' ∧
          Agree r r') ∧
      Coalesced occurred ∧ RefusalsStand occurred := by
  intro labels
  have hends : ((Manager.start default () (some 0) (Quota.new 10 100)).run Policy.standard
      .refusing labels).map (fun r => r.2.filterMap
        (fun | .delivered _ _ u fate => some (u.reason, fate) | _ => none)) =
      some [ ("Initializing", .refused .full), ("EventStreamError", .refused .full),
        ("EventStreamError", .coalesced), ("ResourceDeleted", .refused .full) ] := by
    decide +kernel
  obtain ⟨⟨m, occurred⟩, hrun, hfates⟩ := Option.map_eq_some_iff.mp hends
  exact ⟨m, occurred, hrun, hfates, answers_decide_nothing () hrun⟩

end Manager
end ProvisionWatch

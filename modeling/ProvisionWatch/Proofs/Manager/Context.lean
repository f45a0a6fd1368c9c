import ProvisionWatch.Proofs.Manager.Turns
import ProvisionWatch.Proofs.Session.Context

/-!
# The context of what a manager hands over

What is known of a target is told from the steps of a run, and not from what the
subscriptions remember: the deployment that was fetched for it, and after that
each change that its worker turns to, unless it is a deletion.  Every update
about the target shows the latest of them.

Main results:

- Theorem `step_knows`: every step leaves the workers with the latest snapshots
  of their targets.
- Theorem `updates_show_latest`: over any run each update shows the latest
  snapshot of its target.
-/

namespace ProvisionWatch

/-- The deployment that a setup has fetched. -/
def Stage.deployment? : Stage → Option Deployment
  | fetching => none
  | watching d | watchingEvents d | listing d _ => some d

/-- To whom an update was told about which target, its reason, and what became of it. -/
def Occurrence.told? : Occurrence → Option (Nat × Target × String × Fate)
  | .delivered sink target u fate => some (sink, target, u.reason, fate)
  | _ => none

namespace Manager

variable {σ : Type} {policy : Policy} {sinks : SinkInterface σ} {perCallerLimit globalLimit : Nat}
variable {m : Manager σ} {label : Label} {r : Stepped σ} {target : Target}

/-! ## What becomes known -/

/-- The snapshot of a target that becomes known in a step: as its session opens, that of the fetched
deployment; as its worker takes a turn, the one that the signal brings. -/
def learned? (policy : Policy) (m : Manager σ) (target : Target) : Label → Option Snapshot
  | .listed call _ =>
      (m.setupOf? call).bind fun setup =>
        if setup.request.target = target then setup.stage.deployment?.map Deployment.snapshot
        else none
  | label =>
      (m.turn? policy label).bind fun turn =>
        if turn.worker.target = target then turn.signal.snapshot? else none

/-- The snapshot of a target that became known last in a run. -/
def latest? (policy : Policy) (sinks : SinkInterface σ) (target : Target) :
    Manager σ → List Label → Option Snapshot
  | _, [] => none
  | m, label :: rest =>
      ((m.step policy sinks label).bind fun r => latest? policy sinks target r.1 rest).or
        (m.learned? policy target label)

/-- As a session opens, the fetched deployment becomes known. -/
theorem learned?_of_opening {call : Nat} (answer : Except WatchError (List Event)) {setup : Setup}
    (hpending : m.setupOf? call = some setup) {d : Deployment} {hearsEvents : Bool}
    (hlisting : setup.stage = .listing d hearsEvents) :
    m.learned? policy setup.request.target (.listed call answer) = some d.snapshot := by
  simp [learned?, hpending, hlisting, Stage.deployment?]

/-- As a worker takes a turn, what the signal brings becomes known of its target. -/
theorem learned?_of_turn {turn : WorkerTurn} (hturn : m.turn? policy label = some turn) :
    m.learned? policy turn.worker.target label = turn.signal.snapshot? := by
  obtain ⟨place, rfl, -⟩ := turn?_eq_some_iff.mp hturn
  simp [learned?, hturn]

/-- Nothing becomes known of the target of a worker that takes no turn. -/
theorem learned?_of_idle (hledger : Ledger perCallerLimit globalLimit m) {w : Worker}
    (hw : w ∈ m.workers)
    (idle : ∀ turn, m.turn? policy label = some turn → turn.worker.id ≠ w.id) :
    m.learned? policy w.target label = none := by
  have hturn : ((m.turn? policy label).bind fun turn =>
      if turn.worker.target = w.target then turn.signal.snapshot? else none) = none := by
    refine Option.bind_eq_none_iff.mpr fun turn hturn => if_neg fun heq => ?_
    exact idle turn hturn (congrArg Worker.id (hledger.worker_eq (label_of_turn? hturn).2 hw heq))
  cases label with
  | listed call answer =>
      refine Option.bind_eq_none_iff.mpr fun setup hsetup => if_neg fun heq => ?_
      exact hledger.target_ne_of_setup (mem_setups hledger.distinct hsetup) hw heq.symm
  | _ => exact hturn

/-- What became known last in a run that goes on: in what follows, or else before. -/
theorem latest?_append {labels later : List Label} {m' : Manager σ} {occurred : List Occurrence}
    (hrun : m.run policy sinks labels = some (m', occurred)) :
    latest? policy sinks target m (labels ++ later) =
      (latest? policy sinks target m' later).or (latest? policy sinks target m labels) := by
  induction labels generalizing m occurred with
  | nil =>
      obtain ⟨rfl, -⟩ := Prod.mk.inj (Option.some.inj hrun)
      simp [latest?]
  | cons label rest ih =>
      obtain ⟨⟨next, first⟩, ⟨last, more⟩, hfirst, hmore, heq⟩ := run_cons_eq_some_iff.mp hrun
      obtain ⟨rfl, -⟩ := Prod.mk.inj heq
      simp only [List.cons_append, latest?, hfirst, Option.bind_some, ih hmore, Option.or_assoc]

theorem latest?_singleton (m : Manager σ) (label : Label) :
    latest? policy sinks target m [label] = m.learned? policy target label := by
  cases hstep : m.step policy sinks label <;> simp [latest?, hstep]

/-! ## What workers know -/

/-- Of each target that has a worker a snapshot is known, and its session remembers that one. -/
def Knows (m : Manager σ) (known : Target → Option Snapshot) : Prop :=
  ∀ w ∈ m.workers, ∃ snapshot, known w.target = some snapshot ∧
    w.session.subscription.lastSnapshot = some snapshot

/-- Every step leaves the workers with the latest snapshots. -/
theorem step_knows {known : Target → Option Snapshot} (hknows : m.Knows known)
    (hledger : Ledger perCallerLimit globalLimit m)
    (hstep : m.step policy sinks label = some r) :
    r.1.Knows fun target => (m.learned? policy target label).or (known target) := by
  intro v hv
  cases kept_or_opened_or_turned_of_step hstep hv with
  | kept w mem inbox same waits idle =>
      subst same
      obtain ⟨snapshot, hknown, hlast⟩ := hknows w mem
      refine ⟨snapshot, ?_, hlast⟩
      show (m.learned? policy w.target label).or (known w.target) = some snapshot
      rw [learned?_of_idle hledger mem idle]
      exact hknown
  | opened call answer own setup pending d hearsEvents listing opening opens same =>
      subst same own
      refine ⟨d.snapshot, ?_, ?_⟩
      · show (m.learned? policy setup.request.target (.listed call answer)).or _ = _
        rw [learned?_of_opening answer pending listing]
        rfl
      · exact (Subscription.openWith_informed (openSession?_eq_some_iff.mp opens).2).1
  | turned turn turns going same =>
      subst same
      obtain ⟨snapshot, hknown, hlast⟩ := hknows _ (label_of_turn? turns).2
      have hinformed := Session.take_informed hlast m.now turn.signal
      refine ⟨_, ?_, hinformed.last⟩
      show (m.learned? policy turn.worker.target label).or _ = _
      rw [learned?_of_turn turns, hknown]
      cases turn.signal.snapshot? <;> rfl

/-- Every run leaves the workers with the latest snapshots. -/
theorem run_knows {known : Target → Option Snapshot} (hknows : m.Knows known)
    (hledger : Ledger perCallerLimit globalLimit m) {labels : List Label} {m' : Manager σ}
    {occurred : List Occurrence} (hrun : m.run policy sinks labels = some (m', occurred)) :
    m'.Knows fun target => (latest? policy sinks target m labels).or (known target) := by
  induction labels generalizing m known occurred with
  | nil =>
      obtain ⟨rfl, -⟩ := Prod.mk.inj (Option.some.inj hrun)
      exact hknows
  | cons label rest ih =>
      obtain ⟨⟨next, first⟩, ⟨last, more⟩, hfirst, hmore, heq⟩ := run_cons_eq_some_iff.mp hrun
      obtain ⟨rfl, -⟩ := Prod.mk.inj heq
      have hrest := ih (step_knows hknows hledger hfirst) (step_ledger hledger hfirst) hmore
      simpa only [latest?, hfirst, Option.bind_some, Option.or_assoc] using hrest

/-- Over every run: whatever a step hands over or holds back about a target shows the snapshot of it
that became known last, this step included.  A notice of the monitor itself shows what was known
before the step; so does what a deletion makes the session say, whatever the deleted deployment
looks like. -/
theorem updates_show_latest {now : Instant} {world : σ} {bound : Option Nat} {labels : List Label}
    {occurred more : List Occurrence} {m' : Manager σ}
    (hrun : (Manager.start now world bound (Quota.new perCallerLimit globalLimit)).run policy sinks
      labels = some (m, occurred))
    (hstep : m.step policy sinks label = some (m', more)) {sink : Nat} {u : Update} {fate : Fate}
    (hu : .delivered sink target u fate ∈ more) :
    ∃ snapshot,
      latest? policy sinks target
          (Manager.start now world bound (Quota.new perCallerLimit globalLimit))
          (labels ++ [label]) = some snapshot ∧
        u.Shows snapshot ∧
        (u.source = .system →
          latest? policy sinks target
            (Manager.start now world bound (Quota.new perCallerLimit globalLimit)) labels =
              some snapshot) ∧
        ∀ turn d, m.turn? policy label = some turn →
          turn.signal = .input (.resource (.change ⟨d, .deleted⟩)) →
            u.source = .system ∧ u.reason = "ResourceDeleted" := by
  have hledger := run_ledger hrun
  have hnone : (Manager.start now world bound (Quota.new perCallerLimit globalLimit)).Knows
      fun _ => none :=
    fun _ hv => absurd hv List.not_mem_nil
  have hknows := run_knows hnone (ledger_start now world bound) hrun
  rw [latest?_append hrun, latest?_singleton]
  cases step_speaks hstep hu with
  | opening call answer own setup pending about d hearsEvents listing opening opens delivery mem
      update =>
      subst own about update
      obtain ⟨-, hshows, hsource⟩ :=
        Subscription.openWith_informed (openSession?_eq_some_iff.mp opens).2
      refine ⟨d.snapshot, ?_, hshows delivery mem, fun h => absurd h (hsource delivery mem), ?_⟩
      · rw [learned?_of_opening answer pending listing]
        rfl
      · exact fun turn d hturn => absurd hturn (no_turn (by simp))
  | turn turn turns about delivery mem update =>
      subst about update
      obtain ⟨snapshot, hknown, hlast⟩ := hknows _ (label_of_turn? turns).2
      have hinformed := Session.take_informed hlast m.now turn.signal
      have hlatest : latest? policy sinks turn.worker.target
          (Manager.start now world bound (Quota.new perCallerLimit globalLimit)) labels =
            some snapshot := by
        simpa using hknown
      rw [learned?_of_turn turns, hlatest]
      refine ⟨_, ?_, hinformed.shows delivery mem, fun hsystem => ?_,
        fun turn' d hturn hdeleted => ?_⟩
      · cases turn.signal.snapshot? <;> rfl
      · cases hbrings : turn.signal.snapshot? with
        | none => rfl
        | some brought =>
            rw [Session.source_of_snapshot? hbrings mem] at hsystem
            cases hsystem
      · obtain rfl := Option.some.inj (turns.symm.trans hturn)
        rw [hdeleted] at mem
        exact Session.notice_of_deleted mem

/-- A deployment that was fetched bare gets a condition and is deleted; the last change shows it
bare again.  The deletion is told with the condition. -/
theorem updates_show_latest_of_deleted :
    ∃ m occurred m' more u,
      (Manager.start default () (some 0) (Quota.new 10 100)).run Policy.standard .accepting
        (Label.setup 1 ⟨"ann", ⟨"ns", "a"⟩, none⟩ .blank [] ++
          [ .arrive ⟨"ns", "a"⟩ (.resource (.change
              ⟨{ Deployment.blank with
                status := some ⟨none, [⟨"InfrastructureReady", "False", none, none, none⟩], [],
                  none⟩ }, .modified⟩)),
            .work ⟨"ns", "a"⟩,
            .arrive ⟨"ns", "a"⟩ (.resource (.change ⟨.blank, .deleted⟩)) ]) = some (m, occurred) ∧
      m.step Policy.standard .accepting (.work ⟨"ns", "a"⟩) = some (m', more) ∧
      .delivered 0 ⟨"ns", "a"⟩ u .published ∈ more ∧ u.reason = "ResourceDeleted" ∧
      u.conditions.map Condition.type = ["InfrastructureReady"] := by
  let pending : Deployment :=
    { Deployment.blank with
      status := some ⟨none, [⟨"InfrastructureReady", "False", none, none, none⟩], [], none⟩ }
  let labels : List Label :=
    Label.setup 1 ⟨"ann", ⟨"ns", "a"⟩, none⟩ .blank [] ++
      [ .arrive ⟨"ns", "a"⟩ (.resource (.change ⟨pending, .modified⟩)), .work ⟨"ns", "a"⟩,
        .arrive ⟨"ns", "a"⟩ (.resource (.change ⟨.blank, .deleted⟩)) ]
  have hends : ((Manager.start default () (some 0) (Quota.new 10 100)).run Policy.standard
      .accepting labels).map (fun r => (r.1.step Policy.standard .accepting
        (.work ⟨"ns", "a"⟩)).map fun r => r.2.filterMap Occurrence.told?) =
      some (some [(0, ⟨"ns", "a"⟩, "ResourceDeleted", .published)]) := by
    decide +kernel
  have hlatest : (latest? Policy.standard .accepting ⟨"ns", "a"⟩
      (Manager.start default () (some 0) (Quota.new 10 100))
      (labels ++ [.work ⟨"ns", "a"⟩])).map Snapshot.conditions =
        some pending.snapshot.conditions := by
    decide +kernel
  obtain ⟨⟨m, occurred⟩, hrun, hread⟩ := Option.map_eq_some_iff.mp hends
  obtain ⟨⟨m', more⟩, hstep, htold⟩ := Option.map_eq_some_iff.mp hread
  obtain ⟨o, ho, htells⟩ := List.mem_filterMap.mp (htold ▸ List.mem_singleton_self _)
  obtain ⟨u, rfl, hreason⟩ : ∃ u, o = .delivered 0 ⟨"ns", "a"⟩ u .published ∧
      u.reason = "ResourceDeleted" := by
    cases o with
    | delivered sink target u fate =>
        have hsame : (sink, target, u.reason, fate) =
            (0, ⟨"ns", "a"⟩, "ResourceDeleted", .published) :=
          Option.some.inj htells
        simp only [Prod.mk.injEq] at hsame
        obtain ⟨rfl, rfl, hreason, rfl⟩ := hsame
        exact ⟨u, rfl, hreason⟩
    | asked | returned | opened | watchError | stalled | closed => cases htells
  obtain ⟨snapshot, hshown, hshows, -, -⟩ := updates_show_latest hrun hstep ho
  refine ⟨m, occurred, m', more, u, hrun, hstep, ho, hreason, ?_⟩
  rw [hshown] at hlatest
  rw [hshows.conditions, Option.some.inj hlatest]
  decide +kernel

end Manager
end ProvisionWatch

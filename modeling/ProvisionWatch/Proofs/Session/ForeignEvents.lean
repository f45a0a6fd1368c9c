import Mathlib.Data.List.Induction
import ProvisionWatch.Proofs.Session.Alike

/-!
# Foreign events

Events out of scope say nothing, but they are retained beside the others.  They
take room in the window, and each of them prunes it.  So a run with foreign
events inserted is compared with the run without them: it stays the same as long
as both show evidence alike to every change of an undecided deployment, and no
longer.

Main results:

- Theorem `run_alike_of_keepsEvidence`: what is inserted makes no difference as
  long as the evidence shows alike.
- Theorem `keepsEvidence_of_sparesEvidence`: it does where there is room for all
  events, and no evidence is too old for an inserted event.
- Theorem `foreign_events_ignored`: when foreign events are ignored.
- Theorem `foreign_events_displace_evidence`: fifty of them displace evidence.
-/

namespace ProvisionWatch

/-! ## Signals with events inserted -/

/-- A turn of a session: at a signal of the run, or at an inserted event. -/
inductive Turn where
  | own (signal : Signal)
  | inserted (event : Event)

namespace Turn

/-- What the session turns to. -/
def signal : Turn → Signal
  | own signal => signal
  | inserted e => .input (.event (.event e))

/-- The signal of the run, if it is one. -/
def own? : Turn → Option Signal
  | own signal => some signal
  | inserted _ => none

/-- Whether an event is taken in. -/
def bringsEvent (turn : Turn) : Bool :=
  match turn.signal with
  | .input (.event (.event _)) => true
  | _ => false

end Turn

/-- The signals with the inserted events. -/
def withInserted (plan : List (Instant × Turn)) : List (Instant × Signal) :=
  plan.map fun timed => (timed.1, timed.2.signal)

/-- The signals without them. -/
def withoutInserted (plan : List (Instant × Turn)) : List (Instant × Signal) :=
  plan.filterMap fun timed => timed.2.own?.map fun signal => (timed.1, signal)

section Plans

variable (plan : List (Instant × Turn)) (now : Instant)

@[simp]
theorem withInserted_snoc (turn : Turn) :
    withInserted (plan ++ [(now, turn)]) = withInserted plan ++ [(now, turn.signal)] :=
  List.map_append

@[simp]
theorem withoutInserted_snoc_own (signal : Signal) :
    withoutInserted (plan ++ [(now, .own signal)]) = withoutInserted plan ++ [(now, signal)] :=
  List.filterMap_append

@[simp]
theorem withoutInserted_snoc_inserted (e : Event) :
    withoutInserted (plan ++ [(now, .inserted e)]) = withoutInserted plan := by
  rw [withoutInserted, List.filterMap_append]
  exact List.append_nil _

end Plans

namespace Session

variable {s : Session} {plan : List (Instant × Turn)}

/-- A run changes only which events a scope retains. -/
@[simp]
theorem cleared_run (s : Session) (signals : List (Instant × Signal)) :
    (s.run signals).session.subscription.scope.cleared = s.subscription.scope.cleared := by
  induction signals using List.reverseRecOn with
  | nil => rfl
  | append_singleton signals timed ih =>
      cases hending : (s.run signals).ending with
      | some ending =>
          rw [run_append_of_ended s signals [timed] ending hending]
          exact ih
      | none =>
          rw [run_snoc hending timed.1 timed.2]
          exact (take_keeps _ timed.1 timed.2).scope.trans ih

/-! ## What is inserted -/

/-- The inserted events are out of scope, and the cutoff can be told whenever one is taken in. -/
def InsertsForeign (s : Session) (plan : List (Instant × Turn)) : Prop :=
  ∀ now e, (now, Turn.inserted e) ∈ plan →
    s.subscription.scope.covers e = false ∧ (now.sub? s.retention.age).isSome = true

theorem InsertsForeign.init {timed : Instant × Turn}
    (h : s.InsertsForeign (plan ++ [timed])) : s.InsertsForeign plan :=
  fun now e he => h now e (List.mem_append_left _ he)

/-- Whenever a change of an undecided deployment is taken in, evidence shows with the inserted
events exactly if it shows without them. -/
def KeepsEvidence (s : Session) (plan : List (Instant × Turn)) : Prop :=
  ∀ before now change, before ++ [(now, .own (.input (.resource (.change change))))] <+: plan →
    change.kind ≠ .deleted → change.deployment.snapshot.isDecided = false →
    (s.run (withoutInserted before)).ending = none →
      (s.run (withInserted before)).session.subscription.scope.showsInstalling =
        (s.run (withoutInserted before)).session.subscription.scope.showsInstalling

theorem KeepsEvidence.init {timed : Instant × Turn}
    (h : s.KeepsEvidence (plan ++ [timed])) : s.KeepsEvidence plan :=
  fun before now change hbegins =>
    h before now change (hbegins.trans (List.prefix_append plan [timed]))

/-- An inserted event adds no effect and ends nothing. -/
theorem run_inserted (before : List (Instant × Turn)) {now : Instant} {e : Event}
    (hforeign : s.subscription.scope.covers e = false)
    (hnow : (now.sub? s.retention.age).isSome = true) :
    (s.run (withInserted (before ++ [(now, .inserted e)]))).Alike
      (s.run (withInserted before)) := by
  rw [withInserted_snoc]
  cases hending : (s.run (withInserted before)).ending with
  | some ending =>
      rw [run_append_of_ended s _ _ ending hending]
      exact .refl _
  | none =>
      have hcleared := s.cleared_run (withInserted before)
      rw [run_snoc hending]
      have hsilent : ((s.run (withInserted before)).session.take now
          (.input (.event (.event e)))).Alike (s.run (withInserted before)).session.idle := by
        refine take_foreign ?_ ?_
        · rw [Scope.covers_of_cleared hcleared]
          exact hforeign
        · rw [Scope.retention_of_cleared hcleared]
          exact hnow
      refine ⟨?_, hsilent.ending.trans hending.symm, hsilent.session⟩
      exact (congrArg _ hsilent.effects).trans (List.append_nil _)

/-- What is inserted makes no difference as long as the evidence shows alike. -/
theorem run_alike_of_keepsEvidence (hforeign : s.InsertsForeign plan)
    (hkeeps : s.KeepsEvidence plan) :
    (s.run (withInserted plan)).Alike (s.run (withoutInserted plan)) := by
  induction plan using List.reverseRecOn with
  | nil => exact .refl _
  | append_singleton plan timed ih =>
      have halike := ih hforeign.init hkeeps.init
      obtain ⟨now, turn⟩ := timed
      cases turn with
      | inserted e =>
          obtain ⟨hcovers, hnow⟩ := hforeign now e (List.mem_append_right _ List.mem_cons_self)
          rw [withoutInserted_snoc_inserted]
          exact (run_inserted plan hcovers hnow).trans halike
      | own signal =>
          rw [withInserted_snoc, withoutInserted_snoc_own]
          cases hending : (s.run (withoutInserted plan)).ending with
          | some ending =>
              rw [run_append_of_ended s _ _ ending (halike.ending.trans hending),
                run_append_of_ended s _ _ ending hending]
              exact halike
          | none =>
              have hnext : ((s.run (withInserted plan)).session.take now signal).Alike
                  ((s.run (withoutInserted plan)).session.take now signal) := by
                refine take_alike halike.session now signal
                  fun change hsignal hkind hundecided => ?_
                subst hsignal
                exact hkeeps plan now change List.prefix_rfl hkind hundecided hending
              rw [run_snoc (halike.ending.trans hending), run_snoc hending]
              refine ⟨?_, hnext.ending, hnext.session⟩
              show (s.run (withInserted plan)).effects ++ _ =
                (s.run (withoutInserted plan)).effects ++ _
              rw [halike.effects]
              exact congrArg _ hnext.effects

/-- What is inserted does make a difference as soon as the evidence does not show alike. -/
theorem keepsEvidence_of_effects (hforeign : s.InsertsForeign plan)
    (heffects : (s.run (withInserted plan)).effects = (s.run (withoutInserted plan)).effects) :
    s.KeepsEvidence plan := by
  suffices hprefixes : ∀ part, part <+: plan → s.KeepsEvidence part from
    hprefixes plan List.prefix_rfl
  intro part
  induction part using List.reverseRecOn with
  | nil =>
      intro _ before now change hbegins
      simp at hbegins
  | append_singleton part timed ih =>
      intro hpart
      have hshorter : part <+: plan := (List.prefix_append part [timed]).trans hpart
      have hkeeps := ih hshorter
      intro before now change hbegins hkind hundecided hgoing
      rcases List.prefix_concat_iff.mp hbegins with hlast | hearlier
      · obtain ⟨rfl, rfl⟩ := List.append_singleton_inj.mp hlast
        have halike := run_alike_of_keepsEvidence
          (fun now e he => hforeign now e (hshorter.subset he)) hkeeps
        -- The effects of this change stand at one place in what both runs bring about.
        have hwith : (s.run (withInserted (before ++ [_]))).effects <+:
            (s.run (withInserted plan)).effects :=
          effects_run_prefix (hpart.map _)
        have hwithout : (s.run (withoutInserted (before ++ [_]))).effects <+:
            (s.run (withoutInserted plan)).effects :=
          effects_run_prefix (hpart.filterMap _)
        rw [withInserted_snoc, run_snoc (halike.ending.trans hgoing), heffects] at hwith
        rw [withoutInserted_snoc_own, run_snoc hgoing] at hwithout
        dsimp only at hwith hwithout
        rw [halike.effects] at hwith
        have hlength : ((s.run (withoutInserted before)).effects ++
            ((s.run (withInserted before)).session.take now
              (.input (.resource (.change change)))).effects).length =
            ((s.run (withoutInserted before)).effects ++
              ((s.run (withoutInserted before)).session.take now
                (.input (.resource (.change change)))).effects).length := by
          rw [List.length_append, List.length_append]
          rfl
        have hsame := (List.prefix_of_prefix_length_le hwith hwithout
          (Nat.le_of_eq hlength)).eq_of_length hlength
        exact showsInstalling_of_effects hkind hundecided (List.append_cancel_left hsame)
      · exact hkeeps before now change hearlier hkind hundecided hgoing

/-! ## Room and time -/

/-- The scope after a signal. -/
def scopeAfter (s : Session) (now : Instant) : Signal → Scope
  | .input (.event (.event e)) => (s.subscription.scope.observe e now).1
  | .input .tick => (s.subscription.scope.prune now).1
  | _ => s.subscription.scope

@[simp]
theorem scope_say (s : Session) (subscription : Subscription) (before : List Effect) (u : Update)
    (ending : Option Ending) :
    (s.say subscription before u ending).session.subscription.scope = subscription.scope := by
  show (subscription.deliver u).1.scope = subscription.scope
  rw [Subscription.deliver_eq]

@[simp]
theorem scope_take (s : Session) (now : Instant) (signal : Signal) :
    (s.take now signal).session.subscription.scope = s.scopeAfter now signal := by
  cases signal with
  | cancel => rfl
  | input input =>
      cases input with
      | resource item =>
          cases item with
          | change change =>
              show (s.report _ _).session.subscription.scope = _
              rw [report, scope_say]
              exact s.subscription.scope_applyChange change now
          | error e =>
              show (s.reactToResource now (.error e)).session.subscription.scope = _
              unfold reactToResource
              dsimp only
              split
              · rfl
              · exact scope_say _ _ _ _ _
          | ended => exact scope_say _ _ _ _ _
      | event item =>
          cases item with
          | event e =>
              have hhears := s.reactToEvent_hears now e
              show (s.reactToEvent now (.event e)).session.subscription.scope =
                (s.subscription.scope.observe e now).1
              generalize s.reactToEvent now (.event e) = r at hhears ⊢
              cases hhears with
              | brokeDown scope fault observes => rw [observes]; rfl
              | silent scope observes evaluates => rw [observes]; rfl
              | spoken scope u observes evaluates =>
                  rw [observes, report, scope_say]
          | error e => exact scope_say _ _ _ _ _
          | ended => rfl
      | tick =>
          have hticks := s.reactToTick_ticks now
          show (s.reactToTick now).session.subscription.scope = (s.subscription.scope.prune now).1
          generalize s.reactToTick now = r at hticks ⊢
          cases hticks with
          | brokeDown scope fault prunes => rw [prunes]; rfl
          | expired scope prunes deadline | warned scope prunes deadline unwarned warning =>
              rw [prunes, scope_say]
              rfl
          | quiet scope prunes deadline early => rw [prunes]; rfl

/-- How many events are taken in. -/
def eventsIn (plan : List (Instant × Turn)) : Nat :=
  plan.countP fun timed => timed.2.bringsEvent

@[simp]
theorem eventsIn_snoc (plan : List (Instant × Turn)) (timed : Instant × Turn) :
    eventsIn (plan ++ [timed]) = eventsIn plan + if timed.2.bringsEvent then 1 else 0 := by
  rw [eventsIn, List.countP_append, List.countP_singleton]
  rfl

/-- Among what a session retains and the events of its own that it has taken in. -/
def HasSeen (s : Session) (before : List (Instant × Turn)) (x : Event) : Prop :=
  x ∈ s.subscription.scope.window.events ∨
    ∃ now, (now, Turn.own (.input (.event (.event x)))) ∈ before

theorem HasSeen.snoc {before : List (Instant × Turn)} {x : Event} (h : s.HasSeen before x)
    (timed : Instant × Turn) : s.HasSeen (before ++ [timed]) x :=
  h.imp_right fun ⟨now, hx⟩ => ⟨now, List.mem_append_left _ hx⟩

/-- There is room for all events, and no evidence in scope is too old when an inserted event is
taken in. -/
structure SparesEvidence (s : Session) (plan : List (Instant × Turn)) : Prop where
  room : s.subscription.scope.window.events.length + eventsIn plan ≤ s.retention.count
  timely : ∀ before now e, before ++ [(now, .inserted e)] <+: plan → ∀ x, s.HasSeen before x →
    s.subscription.scope.covers x = true → x.isInstalling = true →
      s.retention.outdates now x = false

theorem SparesEvidence.init {timed : Instant × Turn} (h : s.SparesEvidence (plan ++ [timed])) :
    s.SparesEvidence plan := by
  refine ⟨?_, ?_⟩
  · have hroom := h.room
    rw [eventsIn_snoc] at hroom
    omega
  · intro before now e hbegins
    exact h.timely before now e (hbegins.trans (List.prefix_append plan [timed]))

/-- Two scopes, after some turns and after those of them that are not inserted, have the same
evidence, and neither has more events than there were. -/
structure Balanced (s : Session) (before : List (Instant × Turn)) (scope scope' : Scope) :
    Prop where
  cleared : scope.cleared = s.subscription.scope.cleared
  cleared' : scope'.cleared = s.subscription.scope.cleared
  evidence : scope.evidence = scope'.evidence
  seen : ∀ x ∈ scope.evidence, s.HasSeen before x
  length : scope.window.events.length ≤
    s.subscription.scope.window.events.length + eventsIn before
  length' : scope'.window.events.length ≤
    s.subscription.scope.window.events.length + eventsIn before

section Balancing

variable {before : List (Instant × Turn)} {scope scope' : Scope} {now : Instant} {e : Event}

theorem Balanced.observe_inserted (h : s.Balanced before scope scope')
    (hcovers : s.subscription.scope.covers e = false)
    (hroom : s.subscription.scope.window.events.length + eventsIn before < s.retention.count)
    (htimely : ∀ x, s.HasSeen before x → s.subscription.scope.covers x = true →
      x.isInstalling = true → s.retention.outdates now x = false) :
    s.Balanced (before ++ [(now, .inserted e)]) (scope.observe e now).1 scope' := by
  have hretention : scope.window.retention = s.retention := Scope.retention_of_cleared h.cleared
  have hscope : scope.covers = s.subscription.scope.covers := Scope.covers_of_cleared h.cleared
  have hcount : eventsIn (before ++ [(now, .inserted e)]) = eventsIn before + 1 :=
    eventsIn_snoc before _
  refine ⟨(scope.cleared_observe e now).trans h.cleared, h.cleared', ?_, ?_, ?_, ?_⟩
  · rw [← h.evidence, Scope.evidence_observe (hretention ▸ Nat.lt_of_le_of_lt h.length hroom),
      List.filter_cons_of_neg (by simp [hscope, hcovers]), List.filter_nil, List.append_nil,
      List.filter_eq_self]
    intro x hx
    obtain ⟨-, hcoversx, hevidence⟩ := Scope.mem_evidence.mp hx
    rw [hretention, htimely x (h.seen x hx) (hscope ▸ hcoversx) hevidence]
    rfl
  · intro x hx
    rcases Scope.mem_of_mem_evidence_observe hx with hold | ⟨rfl, hown, -⟩
    · exact (h.seen x hold).snoc _
    · rw [hscope, hcovers] at hown
      cases hown
  · have hlength := h.length
    have hlonger := scope.length_observe_le e now
    omega
  · have hlength := h.length'
    omega

theorem Balanced.observe_own (h : s.Balanced before scope scope')
    (hroom : s.subscription.scope.window.events.length + eventsIn before < s.retention.count) :
    s.Balanced (before ++ [(now, .own (.input (.event (.event e))))]) (scope.observe e now).1
      (scope'.observe e now).1 := by
  have hretention : scope.window.retention = s.retention := Scope.retention_of_cleared h.cleared
  have hretention' : scope'.window.retention = s.retention := Scope.retention_of_cleared h.cleared'
  have hcovers : scope.covers = scope'.covers :=
    Scope.covers_of_cleared (h.cleared.trans h.cleared'.symm)
  have hcount : eventsIn (before ++ [(now, .own (.input (.event (.event e))))]) =
      eventsIn before + 1 :=
    eventsIn_snoc before _
  refine ⟨(scope.cleared_observe e now).trans h.cleared,
    (scope'.cleared_observe e now).trans h.cleared', ?_, ?_, ?_, ?_⟩
  · rw [Scope.evidence_observe (hretention ▸ Nat.lt_of_le_of_lt h.length hroom),
      Scope.evidence_observe (hretention' ▸ Nat.lt_of_le_of_lt h.length' hroom), h.evidence,
      hcovers, hretention, hretention']
  · intro x hx
    rcases Scope.mem_of_mem_evidence_observe hx with hold | ⟨rfl, -⟩
    · exact (h.seen x hold).snoc _
    · exact .inr ⟨now, List.mem_append_right _ List.mem_cons_self⟩
  · have hlength := h.length
    have hlonger := scope.length_observe_le e now
    omega
  · have hlength := h.length'
    have hlonger := scope'.length_observe_le e now
    omega

theorem Balanced.prune (h : s.Balanced before scope scope')
    (hroom : s.subscription.scope.window.events.length + eventsIn before ≤ s.retention.count) :
    s.Balanced (before ++ [(now, .own (.input .tick))]) (scope.prune now).1
      (scope'.prune now).1 := by
  have hretention : scope.window.retention = s.retention := Scope.retention_of_cleared h.cleared
  have hretention' : scope'.window.retention = s.retention := Scope.retention_of_cleared h.cleared'
  have hcount : eventsIn (before ++ [(now, .own (.input .tick))]) = eventsIn before :=
    eventsIn_snoc before _
  have hpruned : (scope.prune now).1.evidence = _ :=
    Scope.evidence_prune (hretention ▸ Nat.le_trans h.length hroom)
  have hpruned' : (scope'.prune now).1.evidence = _ :=
    Scope.evidence_prune (hretention' ▸ Nat.le_trans h.length' hroom)
  refine ⟨(scope.cleared_prune now).trans h.cleared, (scope'.cleared_prune now).trans h.cleared',
    ?_, ?_, ?_, ?_⟩
  · rw [hpruned, hpruned', h.evidence, hretention, hretention']
  · intro x hx
    rw [hpruned] at hx
    exact (h.seen x (List.mem_filter.mp hx).1).snoc _
  · rw [hcount]
    exact Nat.le_trans (scope.window.length_prune_le now) h.length
  · rw [hcount]
    exact Nat.le_trans (scope'.window.length_prune_le now) h.length'

/-- A turn that leaves the scopes alone. -/
theorem Balanced.idle (h : s.Balanced before scope scope') {timed : Instant × Turn}
    (htimed : timed.2.bringsEvent = false) : s.Balanced (before ++ [timed]) scope scope' := by
  have hcount := eventsIn_snoc before timed
  rw [if_neg (by simp [htimed])] at hcount
  refine ⟨h.cleared, h.cleared', h.evidence, fun x hx => (h.seen x hx).snoc timed, ?_, ?_⟩
  · rw [hcount]
    exact h.length
  · rw [hcount]
    exact h.length'

end Balancing

/-- As long as evidence is spared, it is the same with the inserted events and without them, and so
it shows alike. -/
theorem balanced_run (hforeign : s.InsertsForeign plan) (h : s.SparesEvidence plan) :
    s.KeepsEvidence plan ∧
      ((s.run (withoutInserted plan)).ending = none →
        s.Balanced plan (s.run (withInserted plan)).session.subscription.scope
          (s.run (withoutInserted plan)).session.subscription.scope) := by
  induction plan using List.reverseRecOn with
  | nil =>
      refine ⟨fun before now change hbegins => absurd hbegins (by simp), fun _ => ?_⟩
      exact ⟨rfl, rfl, rfl, fun x hx => .inl (Scope.mem_evidence.mp hx).1, Nat.le_refl _,
        Nat.le_refl _⟩
  | append_singleton plan timed ih =>
      obtain ⟨hkeeps, hbalanced⟩ := ih hforeign.init h.init
      have halike := run_alike_of_keepsEvidence hforeign.init hkeeps
      have hroom := h.room
      rw [eventsIn_snoc] at hroom
      refine ⟨?_, fun hgoing => ?_⟩
      · intro before now change hbegins hkind hundecided hgoing
        rcases List.prefix_concat_iff.mp hbegins with hlast | hearlier
        · obtain ⟨rfl, -⟩ := List.append_singleton_inj.mp hlast
          exact Scope.showsInstalling_congr (hbalanced hgoing).evidence
        · exact hkeeps before now change hearlier hkind hundecided hgoing
      · obtain ⟨now, turn⟩ := timed
        have hgoingOn : (s.run (withoutInserted plan)).ending = none :=
          going_of_prefix ((List.prefix_append plan [(now, turn)]).filterMap _) hgoing
        have hbefore := hbalanced hgoingOn
        rw [withInserted_snoc, run_snoc (halike.ending.trans hgoingOn)]
        dsimp only
        rw [scope_take]
        cases turn with
        | inserted e =>
            rw [withoutInserted_snoc_inserted]
            obtain ⟨hcovers, -⟩ := hforeign now e (List.mem_append_right _ List.mem_cons_self)
            exact hbefore.observe_inserted hcovers hroom fun x hx hcoversx hevidence =>
              h.timely plan now e List.prefix_rfl x hx hcoversx hevidence
        | own signal =>
            rw [withoutInserted_snoc_own, run_snoc hgoingOn]
            dsimp only
            rw [scope_take]
            cases signal with
            | cancel => exact hbefore.idle rfl
            | input input =>
                cases input with
                | resource item => exact hbefore.idle rfl
                | tick => exact hbefore.prune hroom
                | event item =>
                    cases item with
                    | event e => exact hbefore.observe_own hroom
                    | error e => exact hbefore.idle rfl
                    | ended => exact hbefore.idle rfl

theorem keepsEvidence_of_sparesEvidence (hforeign : s.InsertsForeign plan)
    (h : s.SparesEvidence plan) : s.KeepsEvidence plan :=
  (balanced_run hforeign h).1

end Session

namespace Opening

variable {o : Opening} {plan : List (Instant × Turn)}

/-- From its opening on a run is alike if it is from there. -/
theorem run_alike_of_session {signals signals' : List (Instant × Signal)}
    (h : (o.session.run signals).Alike (o.session.run signals')) :
    (o.run signals).Alike (o.run signals') := by
  cases hfinished : o.finished with
  | true =>
      rw [run_of_finished hfinished, run_of_finished hfinished]
      exact .refl _
  | false =>
      rw [run_of_going hfinished, run_of_going hfinished]
      exact ⟨congrArg (fun later => o.effects ++ later) h.effects, h.ending, h.session⟩

/-- Events that are out of scope are inserted into the run of a subscription, anywhere, and so many
and at such readings as one likes, as long as the cutoff can be told.  None of them has an effect or
ends the run.  The updates for the sink and the ending stay the same as long as evidence shows alike
to every change of an undecided deployment; otherwise that change comes to something else.  Evidence
shows alike where there is room for all events, and no evidence is too old for an inserted event. -/
theorem foreign_events_ignored (hforeign : o.session.InsertsForeign plan) :
    (∀ before now e, before ++ [(now, .inserted e)] <+: plan →
      (o.run (withInserted (before ++ [(now, .inserted e)]))).effects =
          (o.run (withInserted before)).effects ∧
        (o.run (withInserted (before ++ [(now, .inserted e)]))).ending =
          (o.run (withInserted before)).ending) ∧
    (o.session.KeepsEvidence plan →
      (o.run (withInserted plan)).updates = (o.run (withoutInserted plan)).updates ∧
        (o.run (withInserted plan)).ending = (o.run (withoutInserted plan)).ending) ∧
    (o.finished = false →
      (o.run (withInserted plan)).effects = (o.run (withoutInserted plan)).effects →
        o.session.KeepsEvidence plan) ∧
    (o.session.SparesEvidence plan → o.session.KeepsEvidence plan) := by
  refine ⟨?_, ?_, ?_, Session.keepsEvidence_of_sparesEvidence hforeign⟩
  · intro before now e hbegins
    obtain ⟨hcovers, hnow⟩ :=
      hforeign now e (hbegins.subset (List.mem_append_right _ List.mem_cons_self))
    have halike := run_alike_of_session (Session.run_inserted before hcovers hnow)
    exact ⟨halike.effects, halike.ending⟩
  · intro hkeeps
    have halike := run_alike_of_session (Session.run_alike_of_keepsEvidence hforeign hkeeps)
    exact ⟨congrArg offeredUpdates halike.effects, halike.ending⟩
  · intro hfinished heffects
    rw [run_of_going hfinished, run_of_going hfinished] at heffects
    exact Session.keepsEvidence_of_effects hforeign (List.append_cancel_left heffects)

/-! ## Pods among the events of a deployment -/

/-- A pod of some other name in the namespace was started. -/
def podStarted : Event :=
  ⟨⟨"Pod", "web", some "ns"⟩, "Started", "", "Normal", none, none, none⟩

/-- Services of a deployment are being installed. -/
def servicesInstalled : Event :=
  ⟨⟨"ServiceSet", "a-x", some "ns"⟩, "ServiceInstalling", "", "Normal", none, none, none⟩

/-- Services are being installed, some pods are started, and the deployment is seen again. -/
def podsBetween (pods : Nat) : List (Instant × Turn) :=
  (default, .own (.input (.event (.event servicesInstalled)))) ::
    List.replicate pods (default, .inserted podStarted) ++
      [(default, .own (.input (.resource (.change ⟨⟨.blank, .blank, none⟩, .modified⟩))))]

theorem insertsForeign_podsBetween {s : Session}
    (hcovers : s.subscription.scope.covers podStarted = false)
    (hnow : ((default : Instant).sub? s.retention.age).isSome = true) (pods : Nat) :
    s.InsertsForeign (podsBetween pods) := by
  intro now e he
  obtain ⟨-, rfl, rfl⟩ : ¬ pods = 0 ∧ now = default ∧ e = podStarted := by
    simpa [podsBetween, List.mem_replicate] using he
  exact ⟨hcovers, hnow⟩

/-- One pod makes no difference: there is room for two events, and undated evidence is never too
old. -/
theorem foreign_events_ignored_of_one_pod :
    ∃ o, Manager.openSession? ⟨.standard, Rule.standard, .all⟩ ⟨"ann", ⟨"ns", "a"⟩, none⟩
        ⟨.blank, .blank, none⟩ [] true default = some o ∧
      o.session.SparesEvidence (podsBetween 1) ∧
      (o.run (withoutInserted (podsBetween 1))).updates.map Update.phase =
        [.initializing, .installing, .installing] ∧
      (o.run (withInserted (podsBetween 1))).updates =
        (o.run (withoutInserted (podsBetween 1))).updates := by
  have hopens : ((Manager.openSession? ⟨.standard, Rule.standard, .all⟩
      ⟨"ann", ⟨"ns", "a"⟩, none⟩ ⟨.blank, .blank, none⟩ [] true default).map fun o =>
        (o.session.subscription.scope,
          (o.run (withoutInserted (podsBetween 1))).updates.map Update.phase)) =
      some (.new ⟨"ns", "a"⟩ Rule.standard Config.standard.retention,
        [.initializing, .installing, .installing]) := by
    decide +kernel
  obtain ⟨o, ho, hread⟩ := Option.map_eq_some_iff.mp hopens
  obtain ⟨hscope, hphases⟩ := Prod.mk.inj hread
  have hforeign : o.session.InsertsForeign (podsBetween 1) := by
    refine insertsForeign_podsBetween ?_ ?_ 1
    · rw [hscope]
      decide +kernel
    · rw [Session.retention, hscope]
      decide +kernel
  have hspares : o.session.SparesEvidence (podsBetween 1) := by
    refine ⟨?_, ?_⟩
    · rw [Session.retention, hscope]
      decide
    · intro before now e hbegins x hseen _ _
      rcases hseen with hretained | ⟨seen, hx⟩
      · rw [hscope] at hretained
        cases hretained
      · have hmem := hbegins.subset (List.mem_append_left _ hx)
        obtain ⟨rfl, rfl⟩ : seen = default ∧ x = servicesInstalled := by
          simpa [podsBetween] using hmem
        exact Retention.outdates_of_undated rfl
  obtain ⟨-, hignored, -, hkeeps⟩ := foreign_events_ignored hforeign
  exact ⟨o, ho, hspares, hphases, (hignored (hkeeps hspares)).1⟩

/-- Fifty pods displace the evidence, and the deployment is not said to be installing any more. -/
theorem foreign_events_displace_evidence :
    ∃ o, Manager.openSession? ⟨.standard, Rule.standard, .all⟩ ⟨"ann", ⟨"ns", "a"⟩, none⟩
        ⟨.blank, .blank, none⟩ [] true default = some o ∧
      o.session.InsertsForeign (podsBetween 50) ∧
      (o.run (withInserted (podsBetween 50))).updates.map Update.phase =
        [.initializing, .installing, .initializing] ∧
      (o.run (withoutInserted (podsBetween 50))).updates.map Update.phase =
        [.initializing, .installing, .installing] := by
  have hopens : ((Manager.openSession? ⟨.standard, Rule.standard, .all⟩
      ⟨"ann", ⟨"ns", "a"⟩, none⟩ ⟨.blank, .blank, none⟩ [] true default).map fun o =>
        (o.session.subscription.scope,
          (o.run (withInserted (podsBetween 50))).updates.map Update.phase,
          (o.run (withoutInserted (podsBetween 50))).updates.map Update.phase)) =
      some (.new ⟨"ns", "a"⟩ Rule.standard Config.standard.retention,
        [.initializing, .installing, .initializing],
        [.initializing, .installing, .installing]) := by
    decide +kernel
  obtain ⟨o, ho, hread⟩ := Option.map_eq_some_iff.mp hopens
  simp only [Prod.mk.injEq] at hread
  obtain ⟨hscope, hwith, hwithout⟩ := hread
  refine ⟨o, ho, insertsForeign_podsBetween ?_ ?_ 50, hwith, hwithout⟩
  · rw [hscope]
    decide +kernel
  · rw [Session.retention, hscope]
    decide +kernel

end Opening
end ProvisionWatch

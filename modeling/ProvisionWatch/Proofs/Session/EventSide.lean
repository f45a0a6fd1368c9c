import Mathlib.Data.List.Forall2
import ProvisionWatch.Proofs.Session.Core

/-!
# The event side of a session

Events come beside the signals of a session's own, any number of them and in any
place.  Compared with a run without its events, a run turns to the same own
signals, ends at the same one for the same reason, and has the same last word.
The listed events of an opening have no say in this either.

Main results:

- Theorem `run_agrees`: a run agrees with the run without its events.
- Theorem `run_alike`: from the opening on, runs with the same own signals end
  alike.
- Theorem `run_endTogether`: such runs end at one signal, which is no event.
-/

namespace ProvisionWatch
namespace Session

variable {kept : Retention} {s t : Session} {now : Instant}

/-! ## Runs -/

/-- The signals that a session turns to, up to the one that ends it. -/
def turnedTo (s : Session) : List (Instant × Signal) → List (Instant × Signal)
  | [] => []
  | (now, signal) :: rest =>
      match (s.take now signal).ending with
      | some _ => [(now, signal)]
      | none => (now, signal) :: (s.take now signal).session.turnedTo rest

theorem turnedTo_cons_of_ended {signal : Signal} {ending : Ending} (rest : List (Instant × Signal))
    (h : (s.take now signal).ending = some ending) :
    s.turnedTo ((now, signal) :: rest) = [(now, signal)] := by
  rw [turnedTo, h]

theorem turnedTo_cons {signal : Signal} (rest : List (Instant × Signal))
    (h : (s.take now signal).ending = none) :
    s.turnedTo ((now, signal) :: rest) =
      (now, signal) :: (s.take now signal).session.turnedTo rest := by
  rw [turnedTo, h]

/-- A run agrees with the run of an alike session without the events, and turns to the same signals
of its own. -/
theorem run_agrees (h : s.Undecided kept) (hcore : s.core = t.core)
    {signals : List (Instant × Signal)}
    (hreadings : ∀ timed ∈ signals, (timed.1.sub? kept.age).isSome = true) :
    (s.run signals).Agrees (t.run (ownSignals signals)) ∧
      ownSignals (s.turnedTo signals) = t.turnedTo (ownSignals signals) := by
  induction signals generalizing s t with
  | nil => exact ⟨⟨rfl, hcore, rfl⟩, rfl⟩
  | cons timed rest ih =>
      obtain ⟨now, signal⟩ := timed
      have hnow := hreadings (now, signal) List.mem_cons_self
      have hrest := fun timed hmem => hreadings timed (List.mem_cons_of_mem (now, signal) hmem)
      cases hevents : signal.isOfEvents with
      | true =>
          -- The event leaves the core, so the rest agrees with what the other session does anyway.
          obtain ⟨item, rfl⟩ := Signal.eq_of_isOfEvents hevents
          have hfirst := take_event_agrees h hnow item
          have hgoing : (s.take now (.input (.event item))).ending = none := hfirst.ending
          obtain ⟨hlater, hturned⟩ :=
            ih (h.of_core hfirst.core.symm) (hfirst.core.trans hcore) hrest
          rw [ownSignals_cons_of_events hevents]
          refine ⟨⟨?_, ?_, ?_⟩, ?_⟩
          · rw [run_cons s now _ rest hgoing]
            exact hlater.ending
          · rw [run_cons s now _ rest hgoing]
            exact hlater.core
          · have hsilent : lastWords (s.take now (.input (.event item))).updates = [] :=
              hfirst.lastWords
            rw [updates_run_cons s now _ rest hgoing, lastWords_append, hsilent, List.nil_append]
            exact hlater.lastWords
          · rw [turnedTo_cons rest hgoing, ownSignals_cons_of_events hevents]
            exact hturned
      | false =>
          have hfirst := take_own_agrees h hcore hnow hevents
          rw [ownSignals_cons_of_own hevents]
          cases hending : (s.take now signal).ending with
          | some ending =>
              have hending' := hfirst.ending.symm.trans hending
              rw [run_cons_of_ended s now signal ending rest hending,
                run_cons_of_ended t now signal ending _ hending',
                turnedTo_cons_of_ended rest hending, turnedTo_cons_of_ended _ hending',
                ownSignals_cons_of_own hevents]
              exact ⟨hfirst, rfl⟩
          | none =>
              have hending' := hfirst.ending.symm.trans hending
              obtain ⟨hlater, hturned⟩ :=
                ih (take_own_undecided h hevents hending) hfirst.core hrest
              refine ⟨⟨?_, ?_, ?_⟩, ?_⟩
              · rw [run_cons s now signal rest hending, run_cons t now signal _ hending']
                exact hlater.ending
              · rw [run_cons s now signal rest hending, run_cons t now signal _ hending']
                exact hlater.core
              · rw [updates_run_cons s now signal rest hending,
                  updates_run_cons t now signal _ hending', lastWords_append, lastWords_append,
                  hfirst.lastWords, hlater.lastWords]
              · rw [turnedTo_cons rest hending, turnedTo_cons _ hending',
                  ownSignals_cons_of_own hevents, hturned]

/-- No session ends at an event. -/
theorem last_turnedTo (h : s.Undecided kept) {signals : List (Instant × Signal)}
    (hreadings : ∀ timed ∈ signals, (timed.1.sub? kept.age).isSome = true) {ending : Ending}
    (hends : (s.run signals).ending = some ending) :
    ∃ before timed, s.turnedTo signals = before ++ [timed] ∧ timed.2.isOfEvents = false := by
  induction signals generalizing s with
  | nil => cases hends
  | cons timed rest ih =>
      obtain ⟨now, signal⟩ := timed
      have hnow := hreadings (now, signal) List.mem_cons_self
      have hrest := fun timed hmem => hreadings timed (List.mem_cons_of_mem (now, signal) hmem)
      cases hfirst : (s.take now signal).ending with
      | some ending =>
          rw [turnedTo_cons_of_ended rest hfirst]
          refine ⟨[], (now, signal), rfl, ?_⟩
          cases hevents : signal.isOfEvents with
          | false => rfl
          | true =>
              obtain ⟨item, rfl⟩ := Signal.eq_of_isOfEvents hevents
              rw [(take_event_agrees h hnow item).ending] at hfirst
              cases hfirst
      | none =>
          have hundecided : (s.take now signal).session.Undecided kept := by
            cases hevents : signal.isOfEvents with
            | false => exact take_own_undecided h hevents hfirst
            | true =>
                obtain ⟨item, rfl⟩ := Signal.eq_of_isOfEvents hevents
                exact h.of_core (take_event_agrees h hnow item).core.symm
          rw [run_cons s now signal rest hfirst] at hends
          obtain ⟨before, timed, hturned, hown⟩ := ih hundecided hrest hends
          refine ⟨(now, signal) :: before, timed, ?_, hown⟩
          rw [turnedTo_cons rest hfirst, hturned, List.cons_append]

end Session

/-! ## Openings -/

namespace Subscription

variable {s : Subscription} {d : Deployment} {now : Instant}

@[simp]
theorem terminal_openFirst : (s.openFirst d now).2.update.terminal = d.snapshot.isDecided := by
  rw [openFirst_eq, deliver_update]
  exact Update.terminal_ofSnapshot _ _ _

theorem core_openFirst {scope : Scope} (hscope : scope.cleared = s.scope.cleared) :
    ((({ s with scope := scope } : Subscription)).openFirst d now).1.core =
      (s.withSnapshot d.snapshot now).core := by
  rw [openFirst_eq, deliver_eq]
  show ({ (s.withSnapshot d.snapshot now).core with scope := scope.cleared } : Subscription) = _
  rw [hscope]
  rfl

/-- A session with an undecided snapshot opens undecided. -/
theorem undecided_openFirst (hdecided : d.snapshot.isDecided = false)
    (hrules : ∀ rule ∈ s.scope.rules, rule.phase.isTerminal = false) (hearsEvents : Bool) :
    ({ subscription := (s.openFirst d now).1, hearsEvents := hearsEvents } : Session).Undecided
      s.scope.window.retention := by
  rw [openFirst_eq, deliver_eq]
  exact ⟨⟨d.snapshot, rfl, hdecided⟩, hrules, rfl⟩

/-- What an opening owes to the fetched deployment alone: whether it is all, the core of its session
and the last word. -/
structure OpensTo (s : Subscription) (d : Deployment) (now : Instant) (o : Opening) : Prop where
  finished : o.finished = d.snapshot.isDecided
  core : o.session.core =
    { subscription := (s.withSnapshot d.snapshot now).core, hearsEvents := false }
  lastWords : lastWords (offeredUpdates o.effects) =
    if d.snapshot.isDecided then [(Update.ofSnapshot d.snapshot [] now).essence] else []
  undecided : o.finished = false → o.session.Undecided s.scope.window.retention

/-- What a decided snapshot says first is also the last word. -/
theorem lastWords_openFirst (hdecided : d.snapshot.isDecided = true) :
    lastWords (offeredUpdates [.delivery (s.openFirst d now).2]) =
      [(Update.ofSnapshot d.snapshot [] now).essence] := by
  have hlast := (Update.terminal_ofSnapshot d.snapshot [] now).trans hdecided
  rw [openFirst_eq, Update.ofSnapshot_of_isDecided hdecided, offeredUpdates_deliver hlast,
    lastWords, List.filter_cons_of_pos hlast]
  rfl

/-- The listed events have no say in how an opening ends. -/
theorem openWith_opensTo (hrules : ∀ rule ∈ s.scope.rules, rule.phase.isTerminal = false)
    {listed : List Event} {limit : Nat} {hearsEvents : Bool} {o : Opening}
    (h : s.openWith d listed limit hearsEvents now = .ok o) : s.OpensTo d now o := by
  have hcore : ∀ {subscription : Subscription},
      subscription.core = (s.withSnapshot d.snapshot now).core →
        ({ subscription := subscription, hearsEvents := hearsEvents } : Session).core =
          { subscription := (s.withSnapshot d.snapshot now).core, hearsEvents := false } :=
    fun h => congrArg (fun core => ({ subscription := core, hearsEvents := false } : Session)) h
  have hundecided : ∀ {scope : Scope}, scope.cleared = s.scope.cleared →
      d.snapshot.isDecided = false →
        ({ subscription := (({ s with scope := scope } : Subscription).openFirst d now).1
           hearsEvents := hearsEvents } : Session).Undecided s.scope.window.retention := by
    intro scope hscope hdecided
    have hsame : scope.rules = s.scope.rules := congrArg (fun scope => scope.rules) hscope
    rw [← Scope.retention_of_cleared hscope]
    refine undecided_openFirst (s := { s with scope := scope }) hdecided ?_ hearsEvents
    show ∀ rule ∈ scope.rules, rule.phase.isTerminal = false
    rw [hsame]
    exact hrules
  cases openWith_starts h with
  | finished seeded newest seeds terminal =>
      obtain ⟨scope, hscope, rfl⟩ := seed_eq seeds
      have hdecided := terminal_openFirst.symm.trans terminal
      refine ⟨hdecided.symm, hcore (core_openFirst hscope), ?_, nofun⟩
      rw [hdecided, if_pos rfl]
      exact lastWords_openFirst hdecided
  | silent seeded newest seeds going =>
      obtain ⟨scope, hscope, rfl⟩ := seed_eq seeds
      have hdecided := terminal_openFirst.symm.trans going
      refine ⟨hdecided.symm, hcore (core_openFirst hscope), ?_, fun _ => hundecided hscope hdecided⟩
      rw [hdecided, if_neg Bool.false_ne_true]
      exact lastWords_eq_nil fun v hv => (openFirst_said going v hv).2
  | replayed seeded e u seeds going evaluates moves =>
      obtain ⟨scope, hscope, rfl⟩ := seed_eq seeds
      have hdecided := terminal_openFirst.symm.trans going
      have hfirst := hundecided hscope hdecided
      have hon : u.terminal = false := Session.going_evaluateEvent hfirst evaluates
      have hsaid : ∀ t : Subscription, lastWords (offeredUpdates
          [ .delivery (({ s with scope := scope } : Subscription).openFirst d now).2,
            .delivery (t.deliver u).2 ]) = [] := by
        intro t
        refine lastWords_eq_nil fun v hv => ?_
        rw [show offeredUpdates [_, .delivery (t.deliver u).2] = _ from
          offeredUpdates_append [_] [_]] at hv
        rcases List.mem_append.mp hv with hv | hv
        · exact (openFirst_said going v hv).2
        · rw [eq_of_mem_offeredUpdates_deliver hv]
          exact hon
      have hsame : ∀ t : Subscription,
          (({ t with phase := u.phase } : Subscription).deliver u).1.core = t.core := by
        intro t
        rw [deliver_eq]
        rfl
      refine ⟨hon.trans hdecided.symm, hcore ((hsame _).trans (core_openFirst hscope)), ?_,
        fun _ => hfirst.of_core ?_⟩
      · rw [hdecided, if_neg Bool.false_ne_true]
        exact hsaid _
      · exact Session.core_eq (hsame _).symm

end Subscription

namespace Opening

/-- The signals that a session turns to from its opening on. -/
def turnedTo (o : Opening) (signals : List (Instant × Signal)) : List (Instant × Signal) :=
  if o.finished then [] else o.session.turnedTo signals

/-- Two runs end at one signal, after the same own signals, or neither turns to any. -/
def EndTogether (turned turned' : List (Instant × Signal)) : Prop :=
  (turned = [] ∧ turned' = []) ∨
    ∃ before before' timed, turned = before ++ [timed] ∧ turned' = before' ++ [timed] ∧
      timed.2.isOfEvents = false ∧ ownSignals before = ownSignals before'

variable {s : Subscription} {d : Deployment} {now : Instant} {o o' : Opening}
  {signals signals' : List (Instant × Signal)}

/-- A run from an opening on turns to the same own signals, ends alike and has the same last word,
whatever the events are. -/
theorem run_alike (h : s.OpensTo d now o) (h' : s.OpensTo d now o')
    (hreadings : ∀ timed ∈ signals,
      (timed.1.sub? s.scope.window.retention.age).isSome = true)
    (hreadings' : ∀ timed ∈ signals',
      (timed.1.sub? s.scope.window.retention.age).isSome = true)
    (hsame : ownSignals signals = ownSignals signals') :
    (o.run signals).ending = (o'.run signals').ending ∧
      ownSignals (o.turnedTo signals) = ownSignals (o'.turnedTo signals') ∧
      lastWords (o.run signals).updates = lastWords (o'.run signals').updates := by
  have hfinished := h.finished.trans h'.finished.symm
  have hopened := h.lastWords.trans h'.lastWords.symm
  cases hdone : o.finished with
  | true =>
      have hdone' := hfinished.symm.trans hdone
      rw [run_of_finished hdone, run_of_finished hdone', turnedTo, turnedTo, if_pos hdone,
        if_pos hdone']
      exact ⟨rfl, rfl, hopened⟩
  | false =>
      have hdone' := hfinished.symm.trans hdone
      -- Both runs are compared with what the second session does without its events.
      obtain ⟨hagrees, hturned⟩ :=
        Session.run_agrees (h.undecided hdone) (h.core.trans h'.core.symm) hreadings
      obtain ⟨hagrees', hturned'⟩ := Session.run_agrees (h'.undecided hdone') rfl hreadings'
      rw [← hsame] at hagrees' hturned'
      rw [run_of_going hdone, run_of_going hdone', turnedTo, turnedTo, if_neg (by simp [hdone]),
        if_neg (by simp [hdone'])]
      refine ⟨hagrees.ending.trans hagrees'.ending.symm, hturned.trans hturned'.symm, ?_⟩
      rw [Reaction.updates, Reaction.updates, offeredUpdates_append, offeredUpdates_append,
        lastWords_append, lastWords_append, hopened]
      exact congrArg _ (hagrees.lastWords.trans hagrees'.lastWords.symm)

/-- Neither run ends at an event, and so both end at one signal. -/
theorem run_endTogether (h : s.OpensTo d now o) (h' : s.OpensTo d now o')
    (hreadings : ∀ timed ∈ signals,
      (timed.1.sub? s.scope.window.retention.age).isSome = true)
    (hreadings' : ∀ timed ∈ signals',
      (timed.1.sub? s.scope.window.retention.age).isSome = true)
    (hsame : ownSignals signals = ownSignals signals') {ending : Ending}
    (hends : (o.run signals).ending = some ending) :
    EndTogether (o.turnedTo signals) (o'.turnedTo signals') := by
  obtain ⟨hending, hturned, -⟩ := run_alike h h' hreadings hreadings' hsame
  have hfinished := h.finished.trans h'.finished.symm
  cases hdone : o.finished with
  | true =>
      have hdone' := hfinished.symm.trans hdone
      rw [turnedTo, turnedTo, if_pos hdone, if_pos hdone']
      exact .inl ⟨rfl, rfl⟩
  | false =>
      have hdone' := hfinished.symm.trans hdone
      have hends' := hending.symm.trans hends
      rw [run_of_going hdone] at hends
      rw [run_of_going hdone'] at hends'
      rw [turnedTo, turnedTo, if_neg (by simp [hdone]), if_neg (by simp [hdone'])] at hturned ⊢
      obtain ⟨before, timed, hlast, hown⟩ :=
        Session.last_turnedTo (h.undecided hdone) hreadings hends
      obtain ⟨before', timed', hlast', hown'⟩ :=
        Session.last_turnedTo (h'.undecided hdone') hreadings' hends'
      rw [hlast, hlast'] at hturned
      rw [hlast, hlast']
      rw [ownSignals_snoc_of_own hown, ownSignals_snoc_of_own hown'] at hturned
      obtain ⟨hbefore, hlastSame⟩ := List.append_inj' hturned rfl
      obtain rfl := List.singleton_inj.mp hlastSame
      exact .inr ⟨before, before', timed, rfl, rfl, hown, hbefore⟩

end Opening

/-- Updates with the same last words have last updates that are the same, or farewells that differ
in the phase. -/
theorem sameLast_of_lastWords {updates updates' : List Update}
    (h : lastWords updates = lastWords updates') :
    List.Forall₂ Update.SameLast (updates.filter Update.terminal)
      (updates'.filter Update.terminal) := by
  unfold lastWords at h
  generalize updates.filter Update.terminal = l at h ⊢
  generalize updates'.filter Update.terminal = l' at h ⊢
  induction l generalizing l' with
  | nil =>
      cases l' with
      | nil => exact .nil
      | cons u' l' => cases h
  | cons u l ih =>
      cases l' with
      | nil => cases h
      | cons u' l' =>
          obtain ⟨hu, hl⟩ := List.cons.inj h
          exact .cons (Update.sameLast_of_essence hu) (ih l' hl)

end ProvisionWatch

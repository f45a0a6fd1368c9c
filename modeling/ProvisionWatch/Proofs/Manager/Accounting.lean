import ProvisionWatch.Proofs.Manager.Performing

/-!
# What the metrics account for

The metrics count what occurs from the start of a manager.  At any time they can be
checked against each other, against what the sessions produced and what the sinks
took, and against the registry: its entries of workers, and no others, are marked
as set up.

Main results:

- Theorem `step_turnover`: in a step at most one worker begins to stream or stops.
- Theorem `run_streaming`: as many workers stream as have opened and are not closed.
- Theorem `metrics_balance`: after every run all accounts balance.
-/

namespace ProvisionWatch

/-- Sinks that together take one update and no more.  Their state is how many they took. -/
def SinkInterface.takingOne : SinkInterface Nat :=
  { offer := fun taken _ _ _ => if taken = 0 then (1, none) else (taken, some .full) }

/-- Nothing but effects of a session: no call returns, and no subscription opens or closes. -/
structure Quiet (occurred : List Occurrence) : Prop where
  outcomes : outcomes occurred = []
  opened : occurred.countP Occurrence.isOpened = 0
  closed : occurred.countP Occurrence.isClosed = 0

theorem quiet_of_isEffect {occurred : List Occurrence} (h : ∀ o ∈ occurred, o.isEffect = true) :
    Quiet occurred where
  outcomes := by
    refine List.filterMap_eq_nil_iff.mpr fun o ho => ?_
    have heffect := h o ho
    cases o with
    | returned => cases heffect
    | _ => rfl
  opened := by
    refine List.countP_eq_zero.mpr fun o ho => ?_
    have heffect := h o ho
    cases o with
    | opened => cases heffect
    | _ => exact Bool.false_ne_true
  closed := by
    refine List.countP_eq_zero.mpr fun o ho => ?_
    have heffect := h o ho
    cases o with
    | closed => cases heffect
    | _ => exact Bool.false_ne_true

section Quiet

variable {said : List Occurrence}

theorem outcomes_of_quiet (h : Quiet said) (later : List Occurrence) :
    outcomes (said ++ later) = outcomes later := by
  rw [outcomes_append, h.outcomes, List.nil_append]

theorem opened_of_quiet (h : Quiet said) (later : List Occurrence) :
    (said ++ later).countP Occurrence.isOpened = later.countP Occurrence.isOpened := by
  rw [List.countP_append, h.opened, Nat.zero_add]

theorem closed_of_quiet (h : Quiet said) (later : List Occurrence) :
    (said ++ later).countP Occurrence.isClosed = later.countP Occurrence.isClosed := by
  rw [List.countP_append, h.closed, Nat.zero_add]

end Quiet

namespace Manager

variable {σ : Type} {policy : Policy} {sinks : SinkInterface σ}
variable {m : Manager σ} {label : Label} {r : Stepped σ}

/-! ## Who streams -/

/-- How the workers change in a step, and which entries are marked as set up. -/
inductive Turnover (m : Manager σ) (r : Stepped σ) : Prop where
  /-- The same workers stream.  An entry may go, or come under the next number. -/
  | steady (workers : r.1.workers.map Worker.id = m.workers.map Worker.id)
      (announced : r.1.announced = m.announced)
      (keys : ∀ k ∈ r.1.keys, k ∈ m.keys ∨ k.1 = m.nextId) (nextId : m.nextId ≤ r.1.nextId)
      (opened : r.2.countP Occurrence.isOpened = 0) (closed : r.2.countP Occurrence.isClosed = 0)
      (started : .ok .started ∉ outcomes r.2)
  /-- A worker begins, and its entry is marked. -/
  | begins (w : Worker) (workers : r.1.workers = m.workers ++ [w])
      (announced : r.1.announced = m.announced ++ [w.id]) (keys : r.1.keys = m.keys)
      (nextId : r.1.nextId = m.nextId) (opened : r.2.countP Occurrence.isOpened = 1)
      (closed : r.2.countP Occurrence.isClosed = 0) (started : outcomes r.2 = [.ok .started])
  /-- A worker stops, and its entry goes. -/
  | stops (w : Worker) (mem : w ∈ m.workers)
      (workers : r.1.workers = m.workers.filter fun v => v.id != w.id)
      (announced : r.1.announced = m.announced)
      (keys : r.1.keys = m.keys.filter fun k => k.1 != w.id) (nextId : r.1.nextId = m.nextId)
      (opened : r.2.countP Occurrence.isOpened = 0) (closed : r.2.countP Occurrence.isClosed = 1)
      (started : outcomes r.2 = [])

@[simp]
theorem keys_unregister (m : Manager σ) (id : Nat) (caller : String) :
    (m.unregister id caller).keys = m.keys.filter fun k => k.1 != id := by
  rw [keys, unregister, keys, List.filter_map]
  rfl

@[simp]
theorem keys_cancelWhere (m : Manager σ) (test : Entry → Bool) :
    (m.cancelWhere test).keys = m.keys := by
  simp only [keys, cancelWhere, List.map_map]
  refine List.map_congr_left fun e _ => ?_
  simp only [Function.comp_apply]
  split <;> rfl

/-- A worker that is kept in the place of another one has its number. -/
@[simp]
theorem ids_updateWorker (m : Manager σ) (w : Worker) :
    (m.updateWorker w).workers.map Worker.id = m.workers.map Worker.id := by
  simp only [updateWorker, List.map_map]
  refine List.map_congr_left fun v _ => ?_
  simp only [Function.comp_apply]
  split
  · rename_i hid
    exact (beq_iff_eq.mp hid).symm
  · rfl

theorem not_started_of_returned (call : Nat) {result : CallResult}
    (h : result ≠ .subscribed (.ok .started)) :
    .ok .started ∉ outcomes [.returned call result] := by
  cases result with
  | subscribed outcome =>
      intro hmem
      exact h (congrArg _ (List.mem_singleton.mp hmem).symm)
  | brokeDown | stopped | state => exact List.not_mem_nil

/-- Only a session that opens starts a subscription. -/
theorem Returns.not_started {call : Nat} {result : CallResult}
    (h : Returns policy m label call result) : result ≠ .subscribed (.ok .started) := by
  cases h <;> nofun

theorem Fails.not_started {call : Nat} {setup : Setup} {result : CallResult}
    (h : Fails policy m call setup label result) : result ≠ .subscribed (.ok .started) := by
  cases h <;> nofun

theorem Ends.quiet {w : Worker} {ending : Ending} {said : List Occurrence}
    (h : Ends policy sinks m w ending said) : Quiet said := by
  cases h with
  | finished | brokeDown => exact quiet_of_isEffect (List.forall_mem_nil _)
  | turned => exact quiet_of_isEffect (isEffect_performAll _ _ _ _ _)

/-- In a step one worker at most begins or stops. -/
theorem step_turnover (hstep : m.step policy sinks label = some r) : Turnover m r := by
  cases step_acts hstep with
  | @returns _ call _ returns =>
      exact .steady rfl rfl (fun k hk => .inl hk) (Nat.le_refl _) rfl rfl
        (not_started_of_returned call returns.not_started)
  | @fails _ call setup result pending fails =>
      refine .steady rfl rfl (fun k hk => ?_) (Nat.le_refl _) rfl rfl
        (not_started_of_returned call fails.not_started)
      have hkeys := keys_unregister m setup.id setup.request.caller
      exact .inl (List.mem_of_mem_filter (hkeys ▸ hk))
  | waits | advances | reads | precedes | setClock | bind =>
      exact .steady rfl rfl (fun k hk => .inl hk) (Nat.le_refl _) rfl rfl List.not_mem_nil
  | @begins _ call request sink quota looks free room =>
      refine .steady rfl rfl (fun k hk => ?_) (Nat.le_succ _) rfl rfl List.not_mem_nil
      have hkeys : (m.beginSetup call request sink quota).keys =
          m.keys ++ [(m.nextId, request.target)] :=
        List.map_append
      rcases List.mem_append.mp (hkeys ▸ hk) with hk | hk
      · exact .inl hk
      · exact .inr (congrArg Prod.fst (List.mem_singleton.mp hk))
  | @abandons call p pending =>
      cases p with
      | settingUp setup =>
          refine .steady rfl rfl (fun k hk => ?_) (Nat.le_refl _) rfl rfl List.not_mem_nil
          have hkeys := keys_unregister m setup.id setup.request.caller
          exact .inl (List.mem_of_mem_filter (hkeys ▸ hk))
      | waiting | stopping | reading =>
          exact .steady rfl rfl (fun k hk => .inl hk) (Nat.le_refl _) rfl rfl List.not_mem_nil
  | @stops _ call test stops fresh =>
      refine .steady rfl rfl (fun k hk => ?_) (Nat.le_refl _) rfl rfl List.not_mem_nil
      exact .inl (m.keys_cancelWhere test ▸ hk)
  | reaches =>
      exact .steady (ids_updateWorker m _) rfl (fun k hk => .inl hk) (Nat.le_refl _) rfl rfl
        List.not_mem_nil
  | @opens _ setup _ _ _ opening pending listing session =>
      have hquiet := quiet_of_isEffect
        (isEffect_performAll sinks setup.sink setup.request.target m.sinks opening.effects)
      exact .begins (setup.worker opening) rfl rfl rfl rfl (opened_of_quiet hquiet _)
        (closed_of_quiet hquiet _) (outcomes_of_quiet hquiet _)
  | @turns _ _ w signal inbox found running ticks next going =>
      have hquiet := quiet_of_isEffect
        (isEffect_performAll sinks w.sink w.target m.sinks (w.session.take m.now signal).effects)
      refine .steady (ids_updateWorker m _) rfl (fun k hk => .inl hk) (Nat.le_refl _)
        hquiet.opened hquiet.closed ?_
      rw [hquiet.outcomes]
      exact List.not_mem_nil
  | @ends _ _ w ending said found ends =>
      exact .stops w (mem_of_worker? found) rfl rfl (keys_unregister m w.id w.caller) rfl
        (opened_of_quiet ends.quiet _) (closed_of_quiet ends.quiet _)
        (outcomes_of_quiet ends.quiet _)

/-- Of the registered entries those of workers are marked, and as many workers stream as have opened
and are not closed. -/
structure Streaming (m : Manager σ) (occurred : List Occurrence) : Prop where
  announced_lt : ∀ id ∈ m.announced, id < m.nextId
  announced_iff : ∀ k ∈ m.keys, k.1 ∈ m.announced ↔ k.1 ∈ m.workers.map Worker.id
  workers : m.workers.length + occurred.countP Occurrence.isClosed =
    occurred.countP Occurrence.isOpened
  started : (outcomes occurred).count (.ok .started) = occurred.countP Occurrence.isOpened

/-- Every step keeps the accounts of those who stream. -/
theorem Turnover.streaming {perCallerLimit globalLimit : Nat} (h : Turnover m r)
    (hledger : Ledger perCallerLimit globalLimit m)
    (hledger' : Ledger perCallerLimit globalLimit r.1) {occurred : List Occurrence}
    (hm : Streaming m occurred) : Streaming r.1 (occurred ++ r.2) := by
  have hlt : ∀ id ∈ m.workers.map Worker.id, id < m.nextId := by
    intro id hid
    obtain ⟨w, hw, rfl⟩ := List.mem_map.mp hid
    exact hledger.ids_lt_of_worker hw
  cases h with
  | steady workers announced keys nextId opened closed started =>
      refine ⟨?_, ?_, ?_, ?_⟩
      · rw [announced]
        exact fun id hid => Nat.lt_of_lt_of_le (hm.announced_lt id hid) nextId
      · intro k hk
        rw [announced, workers]
        rcases keys k hk with hold | hnew
        · exact hm.announced_iff k hold
        · rw [hnew]
          exact iff_of_false (fun h => absurd (hm.announced_lt _ h) (Nat.lt_irrefl _))
            fun h => absurd (hlt _ h) (Nat.lt_irrefl _)
      · have hlength := congrArg List.length workers
        rw [List.length_map, List.length_map] at hlength
        rw [hlength, List.countP_append, List.countP_append, opened, closed]
        exact hm.workers
      · rw [outcomes_append, List.count_append, List.countP_append, opened,
          List.count_eq_zero.mpr started]
        exact hm.started
  | begins w workers announced keys nextId opened closed started =>
      refine ⟨?_, ?_, ?_, ?_⟩
      · intro id hid
        rw [announced] at hid
        rcases List.mem_append.mp hid with hold | hnew
        · exact nextId ▸ hm.announced_lt id hold
        · have hw : w ∈ r.1.workers := workers ▸ List.mem_append_right _ List.mem_cons_self
          rw [List.mem_singleton.mp hnew]
          exact hledger'.ids_lt_of_worker hw
      · intro k hk
        rw [announced, workers, List.map_append, List.mem_append, List.mem_append]
        exact or_congr_left (hm.announced_iff k (keys ▸ hk))
      · rw [workers, List.length_append, List.countP_append, List.countP_append, opened, closed,
          ← hm.workers, List.length_singleton]
        omega
      · rw [outcomes_append, List.count_append, List.countP_append, opened, started, hm.started]
        rfl
  | stops w mem workers announced keys nextId opened closed started =>
      refine ⟨?_, ?_, ?_, ?_⟩
      · rw [announced, nextId]
        exact hm.announced_lt
      · intro k hk
        rw [keys] at hk
        obtain ⟨hk, hne⟩ := List.mem_filter.mp hk
        rw [announced, hm.announced_iff k hk, workers, List.mem_map, List.mem_map]
        refine exists_congr fun v => and_congr_left fun hid => ?_
        rw [List.mem_filter, hid]
        exact ⟨fun hv => ⟨hv, hne⟩, fun hv => hv.1⟩
      · have hlength :=
          (perm_cons_filter_ne Worker.id hledger.distinct.workers mem).length_eq
        rw [List.length_cons] at hlength
        rw [workers, List.countP_append, List.countP_append, opened, closed, ← hm.workers, hlength]
        omega
      · rw [outcomes_append, List.count_append, List.countP_append, opened, started]
        exact hm.started

theorem streaming_start (now : Instant) (world : σ) (bound : Option Nat) (quota : Quota) :
    Streaming (Manager.start now world bound quota) [] where
  announced_lt := List.forall_mem_nil _
  announced_iff := List.forall_mem_nil _
  workers := rfl
  started := rfl

/-- Every run from the start keeps the accounts of those who stream. -/
theorem run_streaming {perCallerLimit globalLimit : Nat} {now : Instant} {world : σ}
    {bound : Option Nat} {labels : List Label} {occurred : List Occurrence}
    (hrun : (Manager.start now world bound (Quota.new perCallerLimit globalLimit)).run policy sinks
      labels = some (m, occurred)) : Streaming m occurred := by
  have hboth : Ledger perCallerLimit globalLimit m ∧ Streaming m occurred := by
    refine run_induction
      (motive := fun m occurred => Ledger perCallerLimit globalLimit m ∧ Streaming m occurred) ?_
      ⟨ledger_start now world bound, streaming_start now world bound _⟩ hrun
    intro m before label m' more _ ⟨hledger, hm⟩ hstep
    have hledger' := step_ledger hledger hstep
    exact ⟨hledger', (step_turnover hstep).streaming hledger hledger' hm⟩
  exact hboth.2

/-- So many registered entries are marked as there are workers. -/
theorem Streaming.countP_registry {perCallerLimit globalLimit : Nat} {occurred : List Occurrence}
    (h : Streaming m occurred) (hledger : Ledger perCallerLimit globalLimit m) :
    (m.registry.countP fun e => m.announced.contains e.id) = m.workers.length := by
  have hperm : ((m.keys.map Prod.fst).filter fun id => m.announced.contains id).Perm
      (m.workers.map Worker.id) := by
    refine (List.perm_ext_iff_of_nodup (hledger.ids.filter _) hledger.distinct.workers).mpr ?_
    intro id
    rw [List.mem_filter, List.contains_iff_mem]
    refine ⟨?_, fun hid => ?_⟩
    · rintro ⟨hkey, hid⟩
      obtain ⟨k, hk, rfl⟩ := List.mem_map.mp hkey
      exact (h.announced_iff k hk).mp hid
    · obtain ⟨w, hw, rfl⟩ := List.mem_map.mp hid
      have hk := hledger.key_of_worker hw
      exact ⟨List.mem_map_of_mem hk, (h.announced_iff _ hk).mpr (List.mem_map_of_mem hw)⟩
  have hlength := hperm.length_eq
  rw [List.length_map, ← List.countP_eq_length_filter, List.countP_map, keys, List.countP_map]
    at hlength
  exact hlength

/-! ## All accounts -/

/-- What was counted from the start of a manager balances: the updates that were produced, those
that opened and were closed against those that stream and against the registry, and the outcomes of
calls to subscribe. -/
structure Balanced (counts : Metrics) (produced : Nat)
    (results : List (Except MonitorError SubscribeOutcome)) (m : Manager σ) : Prop where
  produced : produced = counts.published.total + counts.coalesced + counts.publishFailures
  opened : (counts.opened : Int) = counts.active + counts.closed.total
  active : counts.active = (m.registry.countP fun e => m.announced.contains e.id : Nat)
  nonneg : 0 ≤ counts.active
  finished : results.length = results.count (.ok .started) +
    results.count (.ok .alreadyActive) + counts.rejected.total
  started : counts.opened = results.count (.ok .started)

/-- After every run of a manager, whatever it is asked, whatever its collaborators and sinks answer,
and whichever calls are given up: the metrics that were counted from its start account for each
update that its sessions produced, for each subscription that opened, and for each call to subscribe
that returned; and the updates counted as published are those that the sinks took. -/
theorem metrics_balance {perCallerLimit globalLimit : Nat} {now : Instant} {world : σ}
    {bound : Option Nat} {labels : List Label} {m : Manager σ} {occurred : List Occurrence}
    (hrun : (Manager.start now world bound (Quota.new perCallerLimit globalLimit)).run policy sinks
      labels = some (m, occurred)) :
    Balanced (Metrics.zero.recordAll occurred)
        ((Manager.start now world bound (Quota.new perCallerLimit globalLimit)).produced policy
          sinks labels) (outcomes occurred) m ∧
      ∀ taken : σ → Nat, sinks.Tallies taken →
        taken m.sinks = taken world + (Metrics.zero.recordAll occurred).published.total := by
  have hledger := run_ledger hrun
  have hstreaming := run_streaming hrun
  have htells := Metrics.recordAll_tells occurred
  have hactive : (Metrics.zero.recordAll occurred).active = m.workers.length := by
    have hworkers := hstreaming.workers
    have hgauge := htells.active
    rw [← htells.opened, ← htells.closed] at hworkers
    omega
  refine ⟨⟨?_, htells.active, ?_, ?_, ?_, ?_⟩, fun taken htallies => ?_⟩
  · rw [← run_produced hrun, ← htells.produced]
    rfl
  · rw [hstreaming.countP_registry hledger]
    exact hactive
  · rw [hactive]
    exact Int.natCast_nonneg _
  · rw [htells.rejected]
    exact length_outcomes _
  · rw [htells.opened]
    exact hstreaming.started.symm
  · rw [htells.published]
    exact run_taken htallies hrun

/-- One call starts a subscription and another one finds it; two are refused, one of them in its
setup; a fifth one is given up in its own.  The sinks take the first update only.  The events fail
twice, which is told once, and the deletion closes the subscription. -/
theorem metrics_balance_of_full_sink :
    let start := Manager.start default 0 (some 0) (Quota.new 10 100)
    let labels : List Label :=
      Label.setup 1 ⟨"ann", ⟨"ns", "a"⟩, none⟩ .blank [] ++
        [ .subscribe 2 ⟨"bob", ⟨"ns", "a"⟩, none⟩, .subscribe 3 ⟨"bob", ⟨"", "a"⟩, none⟩,
          .subscribe 4 ⟨"bob", ⟨"ns", "b"⟩, none⟩, .fetched 4 (.ok none),
          .subscribe 5 ⟨"bob", ⟨"ns", "c"⟩, none⟩, .abandon 5 ] ++
        Label.setup 6 ⟨"bob", ⟨"ns", "d"⟩, none⟩ .blank [] ++
        [ .arrive ⟨"ns", "a"⟩ (.event (.error (.stream "gone"))), .work ⟨"ns", "a"⟩,
          .arrive ⟨"ns", "a"⟩ (.event (.error (.stream "gone"))), .work ⟨"ns", "a"⟩,
          .arrive ⟨"ns", "a"⟩ (.resource (.change ⟨.blank, .deleted⟩)), .work ⟨"ns", "a"⟩ ]
    ∃ m occurred,
      start.run Policy.standard .takingOne labels = some (m, occurred) ∧
      start.produced Policy.standard .takingOne labels = 5 ∧
      Balanced (Metrics.zero.recordAll occurred)
        (start.produced Policy.standard .takingOne labels) (outcomes occurred) m ∧
      (Metrics.zero.recordAll occurred).published.total = 1 ∧
      (Metrics.zero.recordAll occurred).active = 1 ∧
      (Metrics.zero.recordAll occurred).opened = 2 ∧
      (Metrics.zero.recordAll occurred).rejected.total = 2 := by
  intro start labels
  have hends : (start.run Policy.standard .takingOne labels).map
      (fun r => (r.1.sinks, r.1.registry.countP fun e => r.1.announced.contains e.id,
        outcomes r.2)) =
      some (1, 1, [.ok .started, .ok .alreadyActive,
        .error (.request .missingNamespace), .error (.notFound ⟨"ns", "b"⟩), .ok .started]) := by
    decide +kernel
  have hproduced : start.produced Policy.standard .takingOne labels = 5 := by
    decide +kernel
  have htallies : SinkInterface.takingOne.Tallies id := by
    intro taken sink target u
    by_cases hfree : taken = 0 <;> simp [SinkInterface.takingOne, hfree]
  obtain ⟨⟨m, occurred⟩, hrun, hread⟩ := Option.map_eq_some_iff.mp hends
  simp only [Prod.mk.injEq] at hread
  obtain ⟨htaken, hmarked, houtcomes⟩ := hread
  obtain ⟨hbalanced, hsinks⟩ := metrics_balance hrun
  have hfinished := hbalanced.finished
  refine ⟨m, occurred, hrun, hproduced, hbalanced, ?_, ?_, ?_, ?_⟩
  · have hpublished := hsinks id htallies
    rw [id, htaken] at hpublished
    exact (hpublished.trans (Nat.zero_add _)).symm
  · rw [hbalanced.active, hmarked]
    rfl
  · rw [hbalanced.started, houtcomes]
    decide
  · rw [houtcomes] at hfinished
    have hcounts : 5 = 2 + 1 + (Metrics.zero.recordAll occurred).rejected.total := hfinished
    omega

end Manager
end ProvisionWatch

import ProvisionWatch.Proofs.Manager.Streams
import ProvisionWatch.Proofs.Session.InStep

/-!
# What observers know

Whatever a manager does and whatever its sinks answer, an observer who sees what
a sink is handed for a target knows the phase of the subscription to it.  And
what the sink is handed is exactly the news: an update is compared with the last
one that was handed over in its stream, taken or refused.

Main results:

- Theorem `step_attuned`: every step leaves the workers in step with what was
  handed over.
- Theorem `run_attuned`: so does every run.
- Theorem `observers_in_step`: the phase of a subscription is that of the last
  update that was handed over for it, after its setup and after every input.
-/

namespace ProvisionWatch

/-- A sink that refuses whatever it is offered. -/
def SinkInterface.refusing : SinkInterface Unit :=
  { offer := fun _ _ _ _ => ((), some .full) }

/-! ## What is handed over is news -/

/-- An update was handed over exactly if it is news after the last one that was handed over in its
stream, whether or not that one was taken. -/
def Coalesced (occurred : List Occurrence) : Prop :=
  ∀ before sink target u fate later, occurred = before ++ .delivered sink target u fate :: later →
    (fate ≠ .coalesced ↔ u.IsNewsAfter (streamsOf target before).current.getLast?)

/-- An occurrence is right after those before it. -/
def Occurrence.Fits (occurred : List Occurrence) : Occurrence → Prop
  | .delivered _ target u fate =>
      fate ≠ .coalesced ↔ u.IsNewsAfter (streamsOf target occurred).current.getLast?
  | .asked _ | .returned _ _ | .opened _ | .watchError _ _ _ | .stalled _ | .closed _ _ => True

namespace Coalesced

variable {occurred : List Occurrence}

theorem nil : Coalesced [] := by
  intro before sink target u fate later h
  cases before <;> cases h

/-- One more occurrence is right if it is right after those before it. -/
theorem snoc (h : Coalesced occurred) {o : Occurrence} (ho : o.Fits occurred) :
    Coalesced (occurred ++ [o]) := by
  intro before sink target u fate later heq
  rcases List.eq_nil_or_concat later with rfl | ⟨rest, last, rfl⟩
  · obtain ⟨rfl, hlast⟩ := List.append_inj' heq rfl
    obtain rfl := List.singleton_inj.mp hlast
    exact ho
  · have hsplit :
        occurred ++ [o] = (before ++ .delivered sink target u fate :: rest) ++ [last] := by
      rw [heq, List.concat_eq_append, List.append_assoc, List.cons_append]
    obtain ⟨hrest, -⟩ := List.append_inj' hsplit rfl
    exact h before sink target u fate rest hrest

/-- Where no update is delivered there is nothing to be right or wrong. -/
theorem append_of_fits (h : Coalesced occurred) {more : List Occurrence}
    (hmore : ∀ o ∈ more, ∀ earlier, o.Fits earlier) : Coalesced (occurred ++ more) := by
  induction more generalizing occurred with
  | nil => rwa [List.append_nil]
  | cons o rest ih =>
      have hfirst := h.snoc (hmore o List.mem_cons_self occurred)
      have hrest := ih hfirst fun p hp => hmore p (List.mem_cons_of_mem _ hp)
      rwa [List.append_assoc] at hrest

/-- A delivery takes place as it was decided, whatever the sink answers. -/
theorem fits_perform {σ : Type} {sinks : SinkInterface σ} {sink : Nat} {place : Target} (world : σ)
    {d : Delivery}
    (hd : d = if d.update.IsNewsAfter (streamsOf place occurred).current.getLast? then
      .offered d.update else .coalesced d.update) :
    (Manager.perform sinks sink place world (.delivery d)).2.Fits occurred := by
  by_cases hnews : d.update.IsNewsAfter (streamsOf place occurred).current.getLast?
  · rw [if_pos hnews] at hd
    rw [hd]
    simp only [Manager.perform]
    rcases sinks.offer world sink place d.update with ⟨next, answer⟩
    cases answer with
    | none => exact iff_of_true (by simp) hnews
    | some e => exact iff_of_true (by simp) hnews
  · rw [if_neg hnews] at hd
    rw [hd]
    exact iff_of_false (fun hne => hne rfl) hnews

/-- Effects that follow what was handed over are right after it. -/
theorem performAll (h : Coalesced occurred) {σ : Type} (sinks : SinkInterface σ) (sink : Nat)
    (place : Target) (world : σ) {effects : List Effect}
    (heffects : EffectsFollow (streamsOf place occurred).current effects) :
    Coalesced (occurred ++ (Manager.performAll sinks sink place world effects).2) := by
  induction effects generalizing occurred world with
  | nil => rwa [show (Manager.performAll sinks sink place world []).2 = [] from rfl,
      List.append_nil]
  | cons e rest ih =>
      have hcurrent : (streamsOf place
            (occurred ++ [(Manager.perform sinks sink place world e).2])).current =
          (streamsOf place occurred).current ++ e.offered?.toList := by
        rw [streamsOf_append, List.foldl_cons, List.foldl_nil, note_perform, if_pos rfl]
      have hfirst : (Manager.perform sinks sink place world e).2.Fits occurred ∧
          EffectsFollow ((streamsOf place occurred).current ++ e.offered?.toList) rest := by
        cases e with
        | delivery d => exact ⟨fits_perform world heffects.1, heffects.2⟩
        | watchError | stall =>
            refine ⟨trivial, ?_⟩
            rw [show Effect.offered? _ = none from rfl, Option.toList_none, List.append_nil]
            exact heffects
      have hrest := ih (h.snoc hfirst.1) (Manager.perform sinks sink place world e).1
        (hcurrent ▸ hfirst.2)
      rwa [List.append_assoc] at hrest

end Coalesced

namespace Manager

variable {σ : Type} {policy : Policy} {sinks : SinkInterface σ}
variable {perCallerLimit globalLimit : Nat}
variable {m : Manager σ} {occurred : List Occurrence} {r : Stepped σ}

/-! ## Workers in step -/

/-- The workers are in step with what was handed over, and that was always news. -/
structure Attuned (m : Manager σ) (occurred : List Occurrence) : Prop where
  inStep : ∀ w ∈ m.workers, w.session.subscription.InStep (streamsOf w.target occurred).current
  idle : ∀ target, (∀ w ∈ m.workers, w.target ≠ target) →
    (streamsOf target occurred).current = []
  coalesced : Coalesced occurred

/-- A session that a call can come to is in step as soon as it is open. -/
theorem inStep_of_opens {request : SubscribeRequest} {d : Deployment} {listed : List Event}
    {hearsEvents : Bool} {now : Instant} {opening : Opening}
    (h : openSession? policy request d listed hearsEvents now = some opening) :
    EffectsFollow [] opening.effects ∧
      opening.session.subscription.InStep (offeredUpdates opening.effects) :=
  Subscription.openWith_keepsStep rfl (openSession?_eq_some_iff.mp h).2

/-- A worker that has come about in a step is in step again. -/
theorem Continues.inStep {before after : List Occurrence} {v : Worker}
    (h : Continues policy m before after v)
    (hcurrent : ∀ w ∈ m.workers,
      w.session.subscription.InStep (streamsOf w.target before).current) :
    v.session.subscription.InStep (streamsOf v.target after).current := by
  cases h with
  | kept w mem same said =>
      have htarget : v.target = w.target := congrArg (fun x => x.target) same
      have hsession : v.session = w.session := congrArg (fun x => x.session) same
      rw [said, htarget, hsession]
      exact hcurrent w mem
  | opened opening opens session finished said =>
      obtain ⟨request, d, listed, hearsEvents, now, -, hopens⟩ := opens
      rw [said, session]
      exact (inStep_of_opens hopens).2
  | turned w mem running signal inbox going same said =>
      subst same
      rw [said]
      exact (Session.take_keepsStep (hcurrent w mem) m.now signal).inStep

/-- Whatever occurs in a step is right after what was handed over before. -/
theorem Change.coalesced (h : Change policy sinks m r)
    (hledger : Ledger perCallerLimit globalLimit m) (hattuned : Attuned m occurred) :
    Coalesced (occurred ++ r.2) := by
  have hbefore := hattuned.coalesced
  have haside : ∀ {more : List Occurrence}, (∀ o ∈ more, o.isAside = true) →
      Coalesced (occurred ++ more) := by
    intro more hmore
    refine hbefore.append_of_fits fun o ho earlier => ?_
    have hisAside := hmore o ho
    cases o with
    | asked | returned => trivial
    | opened | delivered | watchError | stalled | closed => cases hisAside
  cases h with
  | none keys nextId quota slots workers aside
  | begun slot free entry quota keys nextId slots workers aside
  | givenUp setup mem registry nextId quota slots workers aside => exact haside aside
  | opened setup mem d listed hearsEvents opening opens w slot session finished registry nextId
      quota slots workers call occurs =>
      have htarget : setup.request.target = w.target := (congrArg Slot.target slot).symm
      have hnothing : (streamsOf w.target occurred).current = [] :=
        hattuned.idle w.target fun u hu => htarget ▸ hledger.target_ne_of_setup mem hu
      have hsaid := hbefore.performAll sinks setup.sink w.target m.sinks
        (hnothing ▸ (inStep_of_opens opens).1)
      rw [occurs, ← List.append_assoc]
      exact hsaid.append_of_fits (by simp [Occurrence.Fits])
  | turned w mem running signal inbox going registry nextId quota slots workers occurs =>
      rw [occurs]
      exact hbefore.performAll sinks w.sink w.target m.sinks
        (Session.take_keepsStep (hattuned.inStep w mem) m.now signal).effects
  | ended w mem ending said ends registry nextId quota slots workers occurs =>
      have hsaid : Coalesced (occurred ++ said) := by
        cases ends with
        | finished | brokeDown => exact haside (List.forall_mem_nil _)
        | turned running ticks signal ending hending =>
            exact hbefore.performAll sinks w.sink w.target m.sinks
              (Session.take_keepsStep (hattuned.inStep w mem) m.now signal).effects
      rw [occurs, ← List.append_assoc]
      exact hsaid.append_of_fits (by simp [Occurrence.Fits])

/-- Every step leaves the workers in step. -/
theorem step_attuned (h : Attuned m occurred) (hledger : Ledger perCallerLimit globalLimit m)
    {label : Label} (hstep : m.step policy sinks label = some r) :
    Attuned r.1 (occurred ++ r.2) := by
  have hchange := (step_moves hledger.distinct hstep).change
  exact ⟨fun v hv => (hchange.continues hledger h.idle hv).inStep h.inStep,
    fun target hnone => hchange.idle hledger h.idle hnone, hchange.coalesced hledger h⟩

/-- Every run from the start leaves the workers in step. -/
theorem run_attuned {now : Instant} {world : σ} {bound : Option Nat} {labels : List Label}
    (hrun : (Manager.start now world bound (Quota.new perCallerLimit globalLimit)).run policy sinks
      labels = some (m, occurred)) : Attuned m occurred := by
  refine (run_induction (motive := fun m occurred =>
    Ledger perCallerLimit globalLimit m ∧ Attuned m occurred) ?_
    ⟨ledger_start now world bound, fun _ h => absurd h List.not_mem_nil, fun _ _ => rfl,
      Coalesced.nil⟩ hrun).2
  rintro m before label m' more - ⟨hledger, hattuned⟩ hstep
  exact ⟨step_ledger hledger hstep, step_attuned hattuned hledger hstep⟩

/-- Over every run, whatever the sinks answer: the phase of each subscription is that of the last
update that was handed over for it, after its setup and after every input it has taken.  So it is
after the next signal too, whichever that is and also if it ends the subscription. -/
theorem observers_in_step {now : Instant} {world : σ} {bound : Option Nat} {labels : List Label}
    (hrun : (Manager.start now world bound (Quota.new perCallerLimit globalLimit)).run policy sinks
      labels = some (m, occurred)) {w : Worker} (hw : w ∈ m.workers) :
    (streamsOf w.target occurred).current.getLast?.map Update.phase =
        some w.session.subscription.phase ∧
      ∀ signal,
        (streamsOf w.target (occurred ++ (performAll sinks w.sink w.target m.sinks
            (w.session.take m.now signal).effects).2)).current.getLast?.map Update.phase =
          some (w.session.take m.now signal).session.subscription.phase := by
  have hinStep := (run_attuned hrun).inStep w hw
  refine ⟨hinStep.phase, fun signal => ?_⟩
  rw [streamsOf_performAll]
  exact (Session.take_keepsStep hinStep m.now signal).inStep.phase

/-- The sink is full from the start.  A listed event says the phase that the deployment is in, so it
does not speak up, and a change that says nothing new is held back. -/
theorem observers_in_step_of_refused_updates :
    ∃ m occurred,
      (Manager.start default () (some 0) (Quota.new 10 100)).run Policy.standard .refusing
        (Label.setup 1 ⟨"ann", ⟨"ns", "a"⟩, none⟩
            { Deployment.blank with
              status := some ⟨none, [⟨"InfrastructureReady", "False", none, none, none⟩], [], none⟩ }
            [ ⟨⟨"Machine", "a", none⟩, "InfrastructureProvisioning", "", "Normal", none, none,
                none⟩ ] ++
          [ .arrive ⟨"ns", "a"⟩ (.resource (.change
              ⟨{ Deployment.blank with
                status := some ⟨none, [⟨"InfrastructureReady", "False", none, none, none⟩], [],
                  none⟩ }, .modified⟩)),
            .work ⟨"ns", "a"⟩ ]) = some (m, occurred) ∧
      occurred.filterMap (fun | .delivered _ _ u fate => some (u.phase, fate) | _ => none) =
        [(.provisioning, .refused .full), (.provisioning, .coalesced)] ∧
      ∃ w ∈ m.workers,
        (streamsOf w.target occurred).current.getLast?.map Update.phase =
            some w.session.subscription.phase ∧
          ∀ signal,
            (streamsOf w.target (occurred ++ (performAll .refusing w.sink w.target m.sinks
                (w.session.take m.now signal).effects).2)).current.getLast?.map Update.phase =
              some (w.session.take m.now signal).session.subscription.phase := by
  let pending : Deployment :=
    { Deployment.blank with
      status := some ⟨none, [⟨"InfrastructureReady", "False", none, none, none⟩], [], none⟩ }
  let labels : List Label :=
    Label.setup 1 ⟨"ann", ⟨"ns", "a"⟩, none⟩ pending
        [ ⟨⟨"Machine", "a", none⟩, "InfrastructureProvisioning", "", "Normal", none, none,
            none⟩ ] ++
      [ .arrive ⟨"ns", "a"⟩ (.resource (.change ⟨pending, .modified⟩)), .work ⟨"ns", "a"⟩ ]
  have hends : ((Manager.start default () (some 0) (Quota.new 10 100)).run Policy.standard
      .refusing labels).map (fun r => (r.2.filterMap
        (fun | .delivered _ _ u fate => some (u.phase, fate) | _ => none),
          r.1.workers.map Worker.target)) =
      some ([(.provisioning, .refused .full), (.provisioning, .coalesced)], [⟨"ns", "a"⟩]) := by
    decide +kernel
  obtain ⟨⟨m, occurred⟩, hrun, hread⟩ := Option.map_eq_some_iff.mp hends
  obtain ⟨hfates, hworkers⟩ := Prod.mk.inj hread
  obtain ⟨w, hw, -⟩ : ∃ w ∈ m.workers, w.target = ⟨"ns", "a"⟩ :=
    List.mem_map.mp (hworkers ▸ List.mem_singleton_self _)
  exact ⟨m, occurred, hrun, hfates, w, hw, observers_in_step hrun hw⟩

end Manager
end ProvisionWatch

import ProvisionWatch.Proofs.Manager.Bystanders
import ProvisionWatch.Proofs.Manager.Counts
import ProvisionWatch.Proofs.Manager.Turns

/-!
# The effects of sessions

In each step the effects of one session take place: of the one that opens, or of
the one whose worker has its turn.  All else that occurs is the manager's own
affair.  So over a run as many updates have fates as sessions produce, and sinks
take those that are published.

Main results:

- Theorem `step_performs`: which effects take place in a step.
- Theorem `run_produced`: each update that a session produces has one fate.
- Theorem `run_taken`: sinks take what is published.
-/

namespace ProvisionWatch

/-- An effect of a session took place. -/
def Occurrence.isEffect : Occurrence → Bool
  | delivered _ _ _ _ | watchError _ _ _ | stalled _ => true
  | asked _ | returned _ _ | opened _ | closed _ _ => false

/-- A count that sinks keep of what they take. -/
def SinkInterface.Tallies {σ : Type} (sinks : SinkInterface σ) (taken : σ → Nat) : Prop :=
  ∀ world sink target u, taken (sinks.offer world sink target u).1 =
    taken world + if (sinks.offer world sink target u).2.isNone then 1 else 0

namespace Manager

variable {σ : Type} {policy : Policy} {sinks : SinkInterface σ}
variable {m : Manager σ} {label : Label} {r : Stepped σ}

/-! ## Effects that take place -/

theorem isEffect_performAll (sinks : SinkInterface σ) (sink : Nat) (target : Target) (world : σ)
    (effects : List Effect) :
    ∀ o ∈ (performAll sinks sink target world effects).2, o.isEffect = true := by
  refine forall_mem_performAll (fun world e => ?_) world effects
  unfold perform
  split
  · split <;> rfl
  · rfl
  · rfl
  · rfl

theorem taken_perform {taken : σ → Nat} (h : sinks.Tallies taken) (sink : Nat) (target : Target)
    (world : σ) (e : Effect) :
    taken (perform sinks sink target world e).1 =
      taken world + (fates [(perform sinks sink target world e).2]).count .published := by
  cases e with
  | watchError | stall => rfl
  | delivery d =>
      cases d with
      | coalesced u => rfl
      | offered u =>
          have hoffer := h world sink target u
          unfold perform
          dsimp only
          rcases hanswer : sinks.offer world sink target u with ⟨world', refusal⟩
          rw [hanswer] at hoffer
          cases refusal with
          | none => exact hoffer
          | some e => exact hoffer

/-- Sinks have taken what was published. -/
theorem taken_performAll {taken : σ → Nat} (h : sinks.Tallies taken) (sink : Nat)
    (target : Target) (world : σ) (effects : List Effect) :
    taken (performAll sinks sink target world effects).1 =
      taken world + (fates (performAll sinks sink target world effects).2).count .published := by
  induction effects generalizing world with
  | nil => rfl
  | cons e rest ih =>
      have hfirst := taken_perform h sink target world e
      have hrest := ih (perform sinks sink target world e).1
      rw [hfirst, Nat.add_assoc, ← List.count_append, ← fates_append] at hrest
      exact hrest

/-- Where an occurrence passes a test exactly if its effect passes another one, as many pass. -/
theorem performAll_countP {test : Occurrence → Bool} {test' : Effect → Bool} {sink : Nat}
    {target : Target} (h : ∀ world e, test (perform sinks sink target world e).2 = test' e)
    (world : σ) (effects : List Effect) :
    (performAll sinks sink target world effects).2.countP test = effects.countP test' := by
  induction effects generalizing world with
  | nil => rfl
  | cons e rest ih =>
      have hrest := ih (perform sinks sink target world e).1
      rw [List.countP_cons, ← h world e, ← hrest]
      exact List.countP_cons

/-- Each delivery has one fate. -/
@[simp]
theorem length_fates_performAll (sink : Nat) (target : Target) (world : σ)
    (effects : List Effect) :
    (fates (performAll sinks sink target world effects).2).length =
      effects.countP Effect.isDelivery := by
  rw [fates, List.length_filterMap_eq_countP]
  refine performAll_countP (fun world e => ?_) world effects
  unfold perform
  split
  · split <;> rfl
  · rfl
  · rfl
  · rfl

/-! ## What a step performs -/

/-- The session that opens in a step. -/
def opening? (policy : Policy) (m : Manager σ) : Label → Option Opening
  | .listed call answer =>
      (m.setupOf? call).bind fun setup =>
        match setup.stage with
        | .listing d hearsEvents =>
            openSession? policy setup.request d (answer.toOption.getD []) hearsEvents m.now
        | _ => none
  | _ => none

/-- The effects of the session that opens in a step, or whose turn it is. -/
def effectsIn (policy : Policy) (m : Manager σ) (label : Label) : List Effect :=
  match m.opening? policy label with
  | some opening => opening.effects
  | none =>
      match m.turn? policy label with
      | some turn => (turn.worker.session.take m.now turn.signal).effects
      | none => []

/-- How many updates sessions produce for delivery in steps that are taken in order. -/
def produced (policy : Policy) (sinks : SinkInterface σ) : Manager σ → List Label → Nat
  | _, [] => 0
  | m, label :: rest =>
      (m.effectsIn policy label).countP Effect.isDelivery +
        match m.step policy sinks label with
        | some r => r.1.produced policy sinks rest
        | none => 0

/-- Effects take place in a step, and then no others. -/
structure Performs (sinks : SinkInterface σ) (m : Manager σ) (effects : List Effect)
    (r : Stepped σ) (sink : Nat) (target : Target) (after : List Occurrence) : Prop where
  world : r.1.sinks = (performAll sinks sink target m.sinks effects).1
  occurred : r.2 = (performAll sinks sink target m.sinks effects).2 ++ after
  after : ∀ o ∈ after, o.isEffect = false

theorem performs_nothing (hworld : r.1.sinks = m.sinks) (haside : ∀ o ∈ r.2, o.isEffect = false) :
    ∃ sink target after, Performs sinks m [] r sink target after :=
  ⟨0, default, r.2, hworld, rfl, haside⟩

theorem performs_workOn (w : Worker) (signal : Signal) (inbox : Inbox) :
    ∃ after, Performs sinks m (w.session.take m.now signal).effects
      (workOn sinks m w signal inbox) w.sink w.target after := by
  refine ⟨((w.session.take m.now signal).ending.map (Occurrence.closed w.target)).toList, ?_,
    workOn_occurred m w signal inbox, ?_⟩
  · unfold workOn
    dsimp only
    split <;> rfl
  · intro o ho
    obtain ⟨ending, -, rfl⟩ := Option.map_eq_some_iff.mp (Option.mem_toList.mp ho)
    rfl

/-- Effects take place only in steps in which a session opens or a worker has its turn. -/
theorem Act.performs_nothing (h : Act policy sinks m label r)
    (hlisted : ∀ call answer, label ≠ .listed call answer)
    (hwork : ∀ target, label ≠ .work target) :
    ∃ sink target after, Performs sinks m [] r sink target after := by
  cases h with
  | returns | fails | begins | advances | reads =>
      exact Manager.performs_nothing rfl (List.forall_mem_singleton.mpr rfl)
  | waits | stops | reaches | precedes | setClock | bind =>
      exact Manager.performs_nothing rfl (List.forall_mem_nil _)
  | @abandons _ p =>
      exact Manager.performs_nothing (by cases p <;> rfl) (List.forall_mem_nil _)
  | opens => exact absurd rfl (hlisted _ _)
  | ends | turns => exact absurd rfl (hwork _)

theorem performs_listed {call : Nat} {answer : Except WatchError (List Event)}
    (hstep : m.step policy sinks (.listed call answer) = some r) :
    ∃ sink target after,
      Performs sinks m (m.effectsIn policy (.listed call answer)) r sink target after := by
  obtain ⟨p, hp, htake⟩ := Option.bind_eq_some_iff.mp hstep
  unfold takeListed at htake
  split at htake
  · rename_i setup
    split at htake
    · rename_i d hearsEvents hstage
      have hopening : m.opening? policy (.listed call answer) =
          openSession? policy setup.request d (answer.toOption.getD []) hearsEvents m.now := by
        simp [opening?, setupOf?_of_call? hp, PendingCall.setup?, hstage]
      have hturn : m.turn? policy (.listed call answer) = none := rfl
      obtain rfl := Option.some.inj htake
      unfold effectsIn finishSetup
      rw [hopening, hturn]
      dsimp only
      cases openSession? policy setup.request d (answer.toOption.getD []) hearsEvents m.now with
      | none => exact performs_nothing rfl (List.forall_mem_singleton.mpr rfl)
      | some opening =>
          refine ⟨setup.sink, setup.request.target, _, rfl, List.append_assoc _ _ _, ?_⟩
          simp [Occurrence.isEffect]
    · cases htake
  · cases htake

theorem performs_work {target : Target} (hstep : m.step policy sinks (.work target) = some r) :
    ∃ sink place after,
      Performs sinks m (m.effectsIn policy (.work target)) r sink place after := by
  have hopening : m.opening? policy (.work target) = none := rfl
  unfold effectsIn
  rw [hopening]
  cases hturn : m.turn? policy (.work target) with
  | some turn =>
      obtain rfl := Option.some.inj ((step_of_turn? hturn).symm.trans hstep)
      exact ⟨_, _, performs_workOn _ _ _⟩
  | none =>
      cases step_works hstep with
      | halts w ending mem halts =>
          exact performs_nothing rfl (List.forall_mem_singleton.mpr rfl)
      | turns turn turns =>
          rw [hturn] at turns
          cases turns

/-- Exactly the effects of the session whose step it is take place in a step. -/
theorem step_performs (hstep : m.step policy sinks label = some r) :
    ∃ sink target after, Performs sinks m (m.effectsIn policy label) r sink target after := by
  have hact := step_acts hstep
  cases label with
  | listed => exact performs_listed hstep
  | work => exact performs_work hstep
  | subscribe | unsubscribe | shutdown | readState | fetched | watched | eventsWatched | resume
  | abandon | arrive | setClock | bind => exact hact.performs_nothing nofun nofun

theorem Performs.fates_eq {effects : List Effect} {sink : Nat} {target : Target}
    {after : List Occurrence} (h : Performs sinks m effects r sink target after) :
    fates r.2 = fates (performAll sinks sink target m.sinks effects).2 := by
  have hafter : fates after = [] := by
    refine List.filterMap_eq_nil_iff.mpr fun o ho => ?_
    have hnone := h.after o ho
    cases o with
    | delivered => cases hnone
    | _ => rfl
  rw [h.occurred, fates_append, hafter, List.append_nil]

/-- Each update that is produced has one fate. -/
theorem run_produced {labels : List Label} {m' : Manager σ} {occurred : List Occurrence}
    (hrun : m.run policy sinks labels = some (m', occurred)) :
    (fates occurred).length = m.produced policy sinks labels := by
  induction labels generalizing m occurred with
  | nil =>
      obtain ⟨-, rfl⟩ := Prod.mk.inj (Option.some.inj hrun)
      rfl
  | cons label rest ih =>
      obtain ⟨⟨next, first⟩, ⟨last, more⟩, hfirst, hmore, heq⟩ := run_cons_eq_some_iff.mp hrun
      obtain ⟨rfl, rfl⟩ := Prod.mk.inj heq
      obtain ⟨sink, target, after, hperforms⟩ := step_performs hfirst
      rw [produced, hfirst, fates_append, List.length_append, ih hmore, hperforms.fates_eq,
        length_fates_performAll]

/-- In every step sinks take what is published. -/
theorem step_taken {taken : σ → Nat} (h : sinks.Tallies taken)
    (hstep : m.step policy sinks label = some r) :
    taken r.1.sinks = taken m.sinks + (fates r.2).count .published := by
  obtain ⟨sink, target, after, hperforms⟩ := step_performs hstep
  rw [hperforms.world, hperforms.fates_eq]
  exact taken_performAll h sink target m.sinks _

/-- Over every run sinks take what is published. -/
theorem run_taken {taken : σ → Nat} (h : sinks.Tallies taken) {labels : List Label}
    {m' : Manager σ} {occurred : List Occurrence}
    (hrun : m.run policy sinks labels = some (m', occurred)) :
    taken m'.sinks = taken m.sinks + (fates occurred).count .published := by
  refine run_induction (motive := fun n before =>
    taken n.sinks = taken m.sinks + (fates before).count .published) ?_ rfl hrun
  intro n before label n' more _ hn hstep
  rw [step_taken h hstep, hn, fates_append, List.count_append, Nat.add_assoc]

end Manager
end ProvisionWatch

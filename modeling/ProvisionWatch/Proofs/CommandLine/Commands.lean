import ProvisionWatch.Proofs.CommandLine.Printing
import ProvisionWatch.Proofs.Manager.Performing

/-!
# Commands are runs

A command takes the steps of a manager that are possible, in the order in which
they are planned, and leaves out the others.  What it keeps for printing is what
was published in them.

Main results:

- Theorem `drive_runs`: a command is a run of its manager.
- Theorem `runWatch_shows_published`: what is printed while a deployment is
  watched was published by the manager, up to the terminal update.
-/

namespace ProvisionWatch
namespace CommandLine

open Manager (performAll)

/-- The updates that sinks took, in order. -/
def published (occurred : List Occurrence) : List Update :=
  occurred.filterMap fun
    | .delivered _ _ u .published => some u
    | _ => none

/-- What calls returned, in order. -/
def returned (occurred : List Occurrence) : List CallResult :=
  occurred.filterMap fun
    | .returned _ result => some result
    | _ => none

@[simp]
theorem published_append (occurred more : List Occurrence) :
    published (occurred ++ more) = published occurred ++ published more :=
  List.filterMap_append

theorem published_of_not_effects {occurred : List Occurrence}
    (h : ∀ o ∈ occurred, o.isEffect = false) : published occurred = [] := by
  refine List.filterMap_eq_nil_iff.mpr fun o ho => ?_
  have hnone := h o ho
  cases o with
  | delivered => cases hnone
  | asked | returned | opened | watchError | stalled | closed => rfl

/-- A sink that keeps everything keeps what is published. -/
@[simp]
theorem performAll_collector (sink : Nat) (target : Target) (kept : List Update)
    (effects : List Effect) :
    (performAll collector sink target kept effects).1 =
      kept ++ published (performAll collector sink target kept effects).2 := by
  induction effects generalizing kept with
  | nil => exact (List.append_nil kept).symm
  | cons e rest ih =>
      cases e with
      | delivery d =>
          cases d with
          | offered u => exact (ih (kept ++ [u])).trans (List.append_assoc _ _ _)
          | coalesced u => exact ih kept
      | watchError | stall => exact ih kept

variable {policy : Policy} {m : Manager (List Update)} {label : Label}

theorem step_collector {r : Manager.Stepped (List Update)}
    (hstep : m.step policy collector label = some r) :
    r.1.sinks = m.sinks ++ published r.2 := by
  obtain ⟨sink, target, after, hperforms⟩ := Manager.step_performs hstep
  rw [hperforms.world, hperforms.occurred, published_append,
    published_of_not_effects hperforms.after, List.append_nil]
  exact performAll_collector sink target m.sinks _

/-- A command is a run of its manager: it takes those of the planned steps that are possible, keeps
what is published, and gathers what calls return. -/
theorem drive_runs (policy : Policy) (m : Manager (List Update)) (labels : List Label) :
    ∃ taken occurred, taken.Sublist labels ∧
      m.run policy collector taken = some ((drive policy m labels).1, occurred) ∧
      (drive policy m labels).2 = returned occurred ∧
      (drive policy m labels).1.sinks = m.sinks ++ published occurred := by
  induction labels generalizing m with
  | nil => exact ⟨[], [], List.Sublist.refl [], rfl, rfl, (List.append_nil _).symm⟩
  | cons label rest ih =>
      cases hstep : m.step policy collector label with
      | none =>
          have hdrive : drive policy m (label :: rest) = drive policy m rest := by
            rw [drive, hstep]
          obtain ⟨taken, occurred, hsub, hrun⟩ := ih m
          exact ⟨taken, occurred, hsub.cons label, hdrive ▸ hrun⟩
      | some first =>
          obtain ⟨next, said⟩ := first
          obtain ⟨taken, occurred, hsub, hrun, hresults, hsinks⟩ := ih next
          have hdrive : drive policy m (label :: rest) =
              ((drive policy next rest).1, returned said ++ (drive policy next rest).2) := by
            rw [drive, hstep]
            rfl
          refine ⟨label :: taken, said ++ occurred, hsub.cons_cons label, ?_, ?_, ?_⟩
          · rw [hdrive]
            exact Manager.run_cons_eq_some_iff.mpr ⟨_, _, hstep, hrun, rfl⟩
          · rw [hdrive, hresults]
            exact List.filterMap_append.symm
          · rw [hdrive, hsinks, step_collector hstep, List.append_assoc, published_append]

/-- A deployment is watched, and the call to subscribe succeeds: what is printed was published in a
run of a manager that begins with nothing, up to the terminal update. -/
theorem runWatch_shows_published {s : Surroundings} {view : ClusterView} {raw caller : String}
    {asked : Request} (pretty : Bool) (hread : Request.read raw = .ok asked)
    (hprepare : prepare s true = .ok (policy, view))
    (hsubscribed : ∀ e rest, (drive policy (freshManager policy s.now)
      (subscriptionSteps view ⟨caller, asked.target, asked.timeout⟩)).2 ≠
        .subscribed (.error e) :: rest) :
    ∃ taken last occurred,
      (freshManager policy s.now).run policy collector taken = some (last, occurred) ∧
      (runWatch s pretty raw caller).stdout =
        (untilTerminal (published occurred)).flatMap (render pretty) := by
  obtain ⟨taken, occurred, -, hrun, -, hsinks⟩ := drive_runs policy (freshManager policy s.now)
    (subscriptionSteps view ⟨caller, asked.target, asked.timeout⟩)
  refine ⟨taken, _, occurred, hrun, ?_⟩
  have hkept : (drive policy (freshManager policy s.now)
      (subscriptionSteps view ⟨caller, asked.target, asked.timeout⟩)).1.sinks =
        published occurred := hsinks
  simp only [runWatch, hread, hprepare, hkept, showUpdates]

end CommandLine
end ProvisionWatch

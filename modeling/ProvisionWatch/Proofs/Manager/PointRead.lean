import ProvisionWatch.Proofs.Manager.Overlap
import ProvisionWatch.Proofs.Manager.Refusals
import ProvisionWatch.Proofs.Subscription.Evidence

/-!
# Reading a state and opening a stream

A deployment can be looked at once, or followed.  Who looks at it once is told
what its conditions say; who follows it is told the same first, unless a listed
event that is in scope and retained is evidence of services being installed.

Main results:

- Theorem `listing_publishes`: a setup that lists its events publishes what its
  deployment says in the light of them, or it breaks down.
- Theorem `point_read_meets_stream`: read at one time, both say the same, or the
  stream opens with the installation of services.
-/

namespace ProvisionWatch

namespace Update

/-- An update tells of services being installed, and agrees in all else that a deployment decides
with what is said of it without events. -/
structure InstallsBeside (u v : Update) : Prop where
  phase : u.phase = .installing
  going : u.terminal = false
  conditions : u.conditions = v.conditions
  services : u.services = v.services
  cluster : u.cluster = v.cluster
  timestamp : u.timestamp = v.timestamp
  source : u.source = v.source
  severity : u.severity = v.severity

/-- What a snapshot says with events is what it says without them, unless there is evidence and the
snapshot leaves room for it. -/
theorem ofSnapshot_eq_of_settled {s : Snapshot} {events : List Event} {now : Instant}
    (h : (∀ e ∈ events, e.isInstalling = false) ∨
      (ofSnapshot s [] now).phase = .ready ∨ (ofSnapshot s [] now).phase = .failed) :
    ofSnapshot s events now = ofSnapshot s [] now := by
  rcases h with hnone | hterminal
  · refine ofSnapshot_congr ?_ now
    rw [List.any_nil, List.any_eq_false]
    intro e he
    rw [hnone e he]
    exact Bool.false_ne_true
  · refine ofSnapshot_of_isDecided ?_ events now
    rw [← Snapshot.isTerminal_classify s []]
    exact (Phase.isTerminal_iff _).mpr hterminal

/-- With evidence an undecided snapshot tells of services being installed, and of nothing else that
it does not tell without events. -/
theorem installsBeside_ofSnapshot {s : Snapshot} {events : List Event} {now : Instant}
    (hevidence : ∃ e ∈ events, e.isInstalling = true)
    (hready : (ofSnapshot s [] now).phase ≠ .ready)
    (hfailed : (ofSnapshot s [] now).phase ≠ .failed) :
    (ofSnapshot s events now).InstallsBeside (ofSnapshot s [] now) := by
  have hundecided : s.isDecided = false := by
    rw [← Snapshot.isTerminal_classify s [], Bool.eq_false_iff, Ne, Phase.isTerminal_iff]
    exact not_or.mpr ⟨hready, hfailed⟩
  have hphase : s.classify events = .installing :=
    Snapshot.classify_of_evidence hundecided (List.any_eq_true.mpr hevidence)
  have hplain : s.classify [] ≠ .failed := hfailed
  refine ⟨hphase, (terminal_ofSnapshot s events now).trans hundecided, rfl, rfl, rfl, rfl, rfl, ?_⟩
  show (s.classify events).severity = (s.classify []).severity
  rw [hphase, Phase.severity, Phase.severity, if_neg (by decide), if_neg hplain]

end Update

namespace Manager

variable {σ : Type} (policy : Policy) (sinks : SinkInterface σ) {m m' : Manager σ}
  {call call' : Nat}

/-- The events that a setup retains of a listing, as far as they are in scope. -/
def seededEvents (policy : Policy) (request : SubscribeRequest) (listed : List Event)
    (now : Instant) : List Event :=
  ((newSubscription policy request now).seed listed policy.config.eventSnapshotLimit
    now).1.scope.covered

/-- A setup that has its listing publishes first what its deployment says in the light of the listed
events.  It breaks down exactly if it cannot take them in. -/
theorem listing_publishes {setup : Setup} {d : Deployment} {hearsEvents : Bool}
    (hpending : m.call? call = some (.settingUp setup))
    (hstage : setup.stage = .listing d hearsEvents) (answer : Except WatchError (List Event)) :
    ∃ r, m.step policy sinks (.listed call answer) = some r ∧
      if policy.takesIn m.now (answer.toOption.getD []) then
        ∃ fate rest, fate ≠ .coalesced ∧
          r.2 = .delivered setup.sink setup.request.target
            (.ofSnapshot d.snapshot
              (seededEvents policy setup.request (answer.toOption.getD []) m.now) m.now)
            fate :: rest
      else r.2 = [.returned call .brokeDown] := by
  refine ⟨_, step_listed hpending hstage answer, ?_⟩
  have hopens := openSession?_isSome policy setup.request d (answer.toOption.getD []) hearsEvents
    m.now
  rw [← hopens]
  unfold finishSetup
  cases hopening : openSession? policy setup.request d (answer.toOption.getD []) hearsEvents
    m.now with
  | none => exact rfl
  | some opening =>
      obtain ⟨rest, heffects⟩ :=
        Subscription.openWith_first rfl (openSession?_eq_some_iff.mp hopening).2
      obtain ⟨fate, later, hfate, hsaid⟩ :=
        performAll_offered sinks setup.sink setup.request.target m.sinks
          (.ofSnapshot d.snapshot
            (seededEvents policy setup.request (answer.toOption.getD []) m.now) m.now) rest
      rw [seededEvents, ← heffects] at hsaid
      refine ⟨fate, later ++ [.opened setup.request.target] ++
        [.returned call (.subscribed (.ok .started))], hfate, ?_⟩
      show ((performAll sinks setup.sink setup.request.target m.sinks opening.effects).2 ++ _) ++ _
        = _
      rw [hsaid]
      rfl

/-- A deployment is read once, and followed by another call at the same reading of the clock.  As
long as no retained event in scope is evidence, or the deployment is ready or has failed, the stream
opens with the very update that the reader is told.  Otherwise it opens with the installation of
services, and agrees in all else that the deployment decides. -/
theorem point_read_meets_stream {target : Target} {setup : Setup} {d : Deployment}
    {hearsEvents : Bool} (hnow : m.now = m'.now)
    (hreading : m.call? call = some (.reading target))
    (hpending : m'.call? call' = some (.settingUp setup))
    (hstage : setup.stage = .listing d hearsEvents) (answer : Except WatchError (List Event)) :
    ∃ read r r', m.step policy sinks (.fetched call (.ok (some d))) = some r ∧
      r.2 = [.returned call (.state (.ok read))] ∧
      m'.step policy sinks (.listed call' answer) = some r' ∧
      if policy.takesIn m'.now (answer.toOption.getD []) then
        ∃ first fate rest, fate ≠ .coalesced ∧
          r'.2 = .delivered setup.sink setup.request.target first fate :: rest ∧
          ((∀ e ∈ seededEvents policy setup.request (answer.toOption.getD []) m'.now,
              e.isInstalling = false) ∨ read.phase = .ready ∨ read.phase = .failed →
            first = read) ∧
          ((∃ e ∈ seededEvents policy setup.request (answer.toOption.getD []) m'.now,
              e.isInstalling = true) → read.phase ≠ .ready → read.phase ≠ .failed →
            first.InstallsBeside read)
      else r'.2 = [.returned call' .brokeDown] := by
  have hread : m.step policy sinks (.fetched call (.ok (some d))) =
      some (m.answerCall call (.state (.ok (.ofSnapshot d.snapshot [] m'.now))) []) := by
    rw [← hnow]
    simp only [step, hreading, Option.bind_some, takeFetched, readResult]
  obtain ⟨r', hstep, hpublishes⟩ := listing_publishes policy sinks hpending hstage answer
  refine ⟨_, _, r', hread, rfl, hstep, ?_⟩
  split at hpublishes
  · rename_i htakes
    obtain ⟨fate, rest, hfate, hsaid⟩ := hpublishes
    rw [if_pos htakes]
    exact ⟨_, fate, rest, hfate, hsaid, Update.ofSnapshot_eq_of_settled,
      Update.installsBeside_ofSnapshot⟩
  · rename_i hrefuses
    rw [if_neg hrefuses]
    exact hpublishes

/-- A deployment about which nothing is known is read while a subscription to it lists an event of
its services being installed. -/
theorem point_read_meets_stream_installing :
    ∃ m occurred read first fate rest,
      (Manager.start default () (some 0) (Quota.new 10 100)).run Policy.standard .accepting
        [ .subscribe 2 ⟨"ann", ⟨"ns", "a"⟩, none⟩, .fetched 2 (.ok (some .blank)),
          .watched 2 (.ok ()), .eventsWatched 2 (.ok ()), .readState 1 ⟨"ns", "a"⟩ ] =
        some (m, occurred) ∧
      (m.step Policy.standard .accepting (.fetched 1 (.ok (some .blank)))).map Prod.snd =
        some [.returned 1 (.state (.ok read))] ∧
      (m.step Policy.standard .accepting (.listed 2 (.ok
          [ ⟨⟨"ServiceSet", "a-x", some "ns"⟩, "ServicesInstalling", "", "Normal", none, none,
              none⟩ ]))).map Prod.snd =
        some (.delivered 0 ⟨"ns", "a"⟩ first fate :: rest) ∧
      read.phase = .initializing ∧ first.phase = .installing ∧ first.InstallsBeside read := by
  let m : Manager Unit :=
    { now := default
      sinks := ()
      bound := some 0
      quota := { Quota.new 10 100 with inUse := 1, held := [("ann", 1)] }
      nextId := 2
      registry := [⟨1, ⟨"ns", "a"⟩, false⟩]
      announced := []
      calls :=
        [ (2, .settingUp ⟨1, ⟨"ann", ⟨"ns", "a"⟩, none⟩, 0, .listing .blank true, .empty⟩),
          (1, .reading ⟨"ns", "a"⟩) ]
      workers := [] }
  let listed : List Event :=
    [ ⟨⟨"ServiceSet", "a-x", some "ns"⟩, "ServicesInstalling", "", "Normal", none, none, none⟩ ]
  have htakes : Policy.standard.takesIn m.now listed = true := by
    decide +kernel
  have hevidence : ∃ e ∈ seededEvents Policy.standard ⟨"ann", ⟨"ns", "a"⟩, none⟩ listed m.now,
      e.isInstalling = true := by
    decide +kernel
  have hreading : m.call? 1 = some (.reading ⟨"ns", "a"⟩) :=
    rfl
  have hpending : m.call? 2 =
      some (.settingUp ⟨1, ⟨"ann", ⟨"ns", "a"⟩, none⟩, 0, .listing .blank true, .empty⟩) :=
    rfl
  obtain ⟨read, r, r', hfetched, hread, hlisted, hfirst⟩ :=
    point_read_meets_stream .standard .accepting rfl hreading hpending rfl (.ok listed)
  have hphase : read.phase = .initializing := by
    have hsays : (m.step Policy.standard .accepting (.fetched 1 (.ok (some .blank)))).map Prod.snd =
        some [.returned 1 (.state (.ok (.ofSnapshot Deployment.blank.snapshot [] default)))] :=
      rfl
    rw [hfetched, Option.map_some, hread] at hsays
    obtain rfl : read = .ofSnapshot Deployment.blank.snapshot [] default := by
      simpa using hsays
    decide +kernel
  obtain ⟨first, fate, rest, -, hdelivered, -, hinstalls⟩ := (if_pos htakes).mp hfirst
  have hbeside := hinstalls hevidence (by rw [hphase]; decide) (by rw [hphase]; decide)
  refine ⟨m, _, read, first, fate, rest, rfl, ?_, ?_, hphase, hbeside.phase, hbeside⟩
  · rw [hfetched, Option.map_some, hread]
  · rw [hlisted, Option.map_some, hdelivered]

end Manager
end ProvisionWatch

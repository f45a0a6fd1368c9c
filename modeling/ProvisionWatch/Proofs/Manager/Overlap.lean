import ProvisionWatch.Proofs.Manager.Stopping
import ProvisionWatch.Proofs.Session.Reactions

/-!
# Calls that overlap

Calls about one target come while others about it are still on their way.  At
each time one of them at most sets the subscription up, or one worker streams.
A call that finds the setup of another waits for it: it has nothing left to do
if that setup comes to the publication of its first update, and looks at the
registry again if it does not.  A call to stop what it finds reaches the worker
also if there is none yet.

What a setup has published is told from the occurrences of a run, and not from
the marks that the manager keeps.

Main results:

- Theorem `run_announced_iff`: marked are the entries whose setup published.
- Theorem `overlaps_settle`: after any run each target has one owner, calls that
  wait take up what they waited for, and who is told to stop does so.
-/

namespace ProvisionWatch

/-- Whether the watch of the deployment was opened. -/
def Stage.watches : Stage → Bool
  | fetching | watching _ => false
  | watchingEvents _ | listing _ _ => true

namespace Manager

variable {σ : Type} {policy : Policy} {sinks : SinkInterface σ} {perCallerLimit globalLimit : Nat}
variable {m : Manager σ} {label : Label} {call id : Nat} {r : Stepped σ}

/-! ## One owner -/

/-- The number of setups and workers that stand for a target. -/
def owners (m : Manager σ) (target : Target) : Nat :=
  m.setups.countP (fun s => s.request.target == target) +
    m.workers.countP fun w => w.target == target

/-- The number of watches of a target that are open. -/
def openWatches (m : Manager σ) (target : Target) : Nat :=
  m.setups.countP (fun s => s.request.target == target && s.stage.watches) +
    m.workers.countP fun w => w.target == target

/-- A target has one owner at most, and its watch is never open twice: a watch is asked for only
where none is open. -/
structure OwnedOnce (policy : Policy) (sinks : SinkInterface σ) (m : Manager σ) (target : Target) :
    Prop where
  owner : m.owners target ≤ 1
  watch : m.openWatches target ≤ 1
  asks : ∀ label r, m.step policy sinks label = some r → .asked (.watch target) ∈ r.2 →
    m.openWatches target = 0

theorem Ledger.owners_le (h : Ledger perCallerLimit globalLimit m) (target : Target) :
    m.owners target ≤ 1 := by
  have hcount := List.nodup_iff_count_le_one.mp h.nodup_targets target
  rwa [List.count_append, List.count_eq_countP, List.count_eq_countP, List.countP_map,
    List.countP_map] at hcount

theorem openWatches_le_owners (m : Manager σ) (target : Target) :
    m.openWatches target ≤ m.owners target := by
  refine Nat.add_le_add_right (List.countP_mono_left fun s _ hs => ?_) _
  exact (Bool.and_eq_true_iff.mp hs).1

/-- Only a setup that fetched its deployment asks for the watch. -/
theorem Asks.setup_of_watch {target : Target} (h : Asks policy m label (.watch target)) :
    ∃ call setup, m.call? call = some (.settingUp setup) ∧ setup.request.target = target ∧
      setup.stage = .fetching := by
  cases h with
  | @advances _ call setup stage _ pending advances =>
      cases advances with
      | found d fetching => exact ⟨call, setup, pending, rfl, fetching⟩

/-- A setup that is still fetching holds its target, but no watch of it. -/
theorem Ledger.openWatches_of_fetching (h : Ledger perCallerLimit globalLimit m) {setup : Setup}
    (hsetup : setup ∈ m.setups) (hstage : setup.stage = .fetching) :
    m.openWatches setup.request.target = 0 := by
  have hsetups : ∀ s ∈ m.setups, s.request.target = setup.request.target → s = setup :=
    fun s hs => List.inj_on_of_nodup_map (List.nodup_append.mp h.nodup_targets).1 hs hsetup
  refine Nat.add_eq_zero_iff.mpr ⟨List.countP_eq_zero.mpr ?_, List.countP_eq_zero.mpr ?_⟩
  · intro s hs hwatches
    simp only [Bool.and_eq_true, beq_iff_eq] at hwatches
    rw [hsetups s hs hwatches.1, hstage] at hwatches
    exact absurd hwatches.2 (by simp [Stage.watches])
  · intro w hw htarget
    exact h.target_ne_of_setup hsetup hw (beq_iff_eq.mp htarget)

theorem Ledger.ownedOnce (h : Ledger perCallerLimit globalLimit m) (target : Target) :
    OwnedOnce policy sinks m target where
  owner := h.owners_le target
  watch := Nat.le_trans (m.openWatches_le_owners target) (h.owners_le target)
  asks label r hstep hasked := by
    obtain ⟨call, setup, hpending, rfl, hstage⟩ := ((step_acts hstep).asks hasked).setup_of_watch
    have hmem := mem_setups h.distinct (setupOf?_of_call? hpending)
    exact h.openWatches_of_fetching hmem hstage

/-! ## What a setup has published -/

/-- A step in which the setup of an entry comes to the publication of its first update: its call
hands an update to the sink, before all else that occurs. -/
def Publishes (m : Manager σ) (label : Label) (occurred : List Occurrence) (id : Nat) : Prop :=
  ∃ call setup u fate later,
    label.call? = some call ∧ m.call? call = some (.settingUp setup) ∧ setup.id = id ∧
      fate ≠ .coalesced ∧ occurred = .delivered setup.sink setup.request.target u fate :: later

/-- The setup of an entry comes to the publication of its first update in a run. -/
def PublishedIn (policy : Policy) (sinks : SinkInterface σ) (id : Nat) :
    Manager σ → List Label → Prop
  | _, [] => False
  | m, label :: rest =>
      ∃ r, m.step policy sinks label = some r ∧
        (Publishes m label r.2 id ∨ PublishedIn policy sinks id r.1 rest)

/-- An update that is offered is handed to the sink, whatever the sink says. -/
theorem perform_offered (sinks : SinkInterface σ) (sink : Nat) (target : Target) (world : σ)
    (u : Update) :
    ∃ fate, fate ≠ .coalesced ∧
      (perform sinks sink target world (.delivery (.offered u))).2 =
        .delivered sink target u fate := by
  rcases hoffer : sinks.offer world sink target u with ⟨world', error⟩
  cases error with
  | none => exact ⟨.published, by simp, by simp only [perform, hoffer]⟩
  | some e => exact ⟨.refused e, by simp, by simp only [perform, hoffer]⟩

/-- An update that is offered first is handed over before all else. -/
theorem performAll_offered (sinks : SinkInterface σ) (sink : Nat) (target : Target) (world : σ)
    (u : Update) (rest : List Effect) :
    ∃ fate later, fate ≠ .coalesced ∧
      (performAll sinks sink target world (.delivery (.offered u) :: rest)).2 =
        .delivered sink target u fate :: later := by
  obtain ⟨fate, hfate, hoffered⟩ := perform_offered sinks sink target world u
  exact ⟨fate, _, hfate, congrArg (· :: _) hoffered⟩

/-- A setup that opens its session publishes. -/
theorem publishes_of_opens {setup : Setup} (hown : label.call? = some call)
    (hpending : m.call? call = some (.settingUp setup)) {d : Deployment} {listed : List Event}
    {hearsEvents : Bool} {now : Instant} {opening : Opening}
    (hopens : openSession? policy setup.request d listed hearsEvents now = some opening)
    (world : σ) (after : List Occurrence) :
    Publishes m label ((performAll sinks setup.sink setup.request.target world
      opening.effects).2 ++ after) setup.id := by
  obtain ⟨u, rest, heffects⟩ :=
    Subscription.openWith_speaks rfl (openSession?_eq_some_iff.mp hopens).2
  obtain ⟨fate, later, hfate, hsaid⟩ :=
    performAll_offered sinks setup.sink setup.request.target world u rest
  rw [heffects, hsaid]
  exact ⟨call, setup, u, fate, later ++ after, hown, hpending, rfl, hfate, rfl⟩

/-- A step marks the entry whose setup publishes in it, and no other. -/
theorem Act.announced_iff (h : Act policy sinks m label r) :
    id ∈ r.1.announced ↔ id ∈ m.announced ∨ Publishes m label r.2 id := by
  -- Where no call takes the step or no update comes first, nothing is published.
  have hkept : ∀ {announced : List Nat} {occurred : List Occurrence}, announced = m.announced →
      ¬ Publishes m label occurred id →
      (id ∈ announced ↔ id ∈ m.announced ∨ Publishes m label occurred id) := by
    rintro announced occurred rfl hnot
    exact ⟨.inl, fun h => h.resolve_right hnot⟩
  cases h with
  | @opens call setup d hearsEvents answer opening pending listing session =>
      simp only [startWorker, dropCall, List.mem_append, List.mem_singleton]
      refine or_congr_right ⟨?_, ?_⟩
      · rintro rfl
        exact publishes_of_opens rfl pending session _ _
      · rintro ⟨call', setup', -, -, -, hown, hpending, rfl, -, -⟩
        obtain rfl := Option.some.inj hown
        rw [pending] at hpending
        cases hpending
        rfl
  | @abandons _ p pending =>
      refine hkept (by cases p <;> rfl) ?_
      rintro ⟨_, _, _, _, _, _, _, _, _, hfirst⟩
      cases hfirst
  | returns | waits | begins | fails | advances | stops | reads =>
      refine hkept rfl ?_
      rintro ⟨_, _, _, _, _, _, _, _, _, hfirst⟩
      simp [advance] at hfirst
  | reaches | precedes | ends | turns | setClock | bind =>
      refine hkept rfl ?_
      rintro ⟨_, _, _, _, _, hown, _⟩
      cases hown

/-- Marked are the entries that were before, and those whose setup published in the run. -/
theorem run_announced_iff {labels : List Label} {m' : Manager σ} {occurred : List Occurrence}
    (hrun : m.run policy sinks labels = some (m', occurred)) :
    id ∈ m'.announced ↔ id ∈ m.announced ∨ PublishedIn policy sinks id m labels := by
  induction labels generalizing m occurred with
  | nil =>
      obtain ⟨rfl, -⟩ := Prod.mk.inj (Option.some.inj hrun)
      simp [PublishedIn]
  | cons label rest ih =>
      obtain ⟨⟨next, first⟩, ⟨last, later⟩, hstep, hlater, heq⟩ := run_cons_eq_some_iff.mp hrun
      obtain ⟨rfl, -⟩ := Prod.mk.inj heq
      rw [ih hlater, (step_acts hstep).announced_iff]
      simp [PublishedIn, hstep, or_assoc]

/-! ## Calls that look, wait, and set up -/

/-- What a call makes of the registry when it looks, where `published` are the entries whose setup
came to its first update: it waits for the setup of another one that did not, and sets up itself
where there is none. -/
structure LooksOn (policy : Policy) (sinks : SinkInterface σ) (m : Manager σ)
    (published : Nat → Prop) (label : Label) (call : Nat) (request : SubscribeRequest)
    (sink : Nat) : Prop where
  active : ∀ e, m.lookup? request.target = some e → published e.id →
    m.step policy sinks label = some (m.answerCall call (.subscribed (.ok .alreadyActive)) [])
  waits : ∀ e, m.lookup? request.target = some e → ¬ published e.id →
    m.step policy sinks label = some (m.keepCall call (.waiting e.id request sink), [])
  begins : ∀ quota, m.lookup? request.target = none →
    m.quota.acquire request.caller = .ok quota →
    m.step policy sinks label =
      some (m.beginSetup call request sink quota, [.asked (.fetch request.target)])
  full : ∀ e, m.lookup? request.target = none → m.quota.acquire request.caller = .error e →
    m.step policy sinks label = some (m.answerCall call (.subscribed (.error (.capacity e))) [])

/-- How a call goes on that waits for the setup of an entry: it has nothing left to do exactly if
that setup came to its first update, and looks again once it is gone without. -/
structure WaitsOn (policy : Policy) (sinks : SinkInterface σ) (m : Manager σ)
    (published : Nat → Prop) (call entry : Nat) (request : SubscribeRequest) (sink : Nat) :
    Prop where
  active : published entry → m.step policy sinks (.resume call) =
    some (m.answerCall call (.subscribed (.ok .alreadyActive)) [])
  waits : ¬ published entry → m.isRegistered entry = true →
    m.step policy sinks (.resume call) = none
  looks : ¬ published entry → m.isRegistered entry = false →
    Looks policy m (.resume call) call request sink
  stays : ∀ label r, label ≠ .resume call → label ≠ .abandon call →
    m.step policy sinks label = some r →
      r.1.call? call = some (.waiting entry request sink) ∧ ∀ result, .returned call result ∉ r.2

/-- A call that sets a subscription up goes on with it and then returns what became of it: that it
published, or why it failed. -/
structure SetsUp (policy : Policy) (sinks : SinkInterface σ) (m : Manager σ) (call : Nat)
    (setup : Setup) : Prop where
  registered : ∃ e, m.lookup? setup.request.target = some e ∧ e.id = setup.id
  goesOn : ∀ label r, label ≠ .abandon call → m.step policy sinks label = some r →
    (∃ setup', r.1.call? call = some (.settingUp setup') ∧ setup'.id = setup.id ∧
      setup'.request = setup.request ∧ ∀ result, .returned call result ∉ r.2) ∨
    ∃ before result, r.2 = before ++ [.returned call result] ∧
      (Fails policy m call setup label result ∨
        result = .subscribed (.ok .started) ∧ Publishes m label r.2 setup.id)

theorem Looks.looksOn {published : Nat → Prop} {request : SubscribeRequest} {sink : Nat}
    (h : Looks policy m label call request sink)
    (hpublished : ∀ id, id ∈ m.announced ↔ published id) :
    LooksOn policy sinks m published label call request sink where
  active e hfound hdone := by
    rw [h.step_eq, attempt, hfound]
    simp [(hpublished e.id).mpr hdone]
  waits e hfound hdone := by
    rw [h.step_eq, attempt, hfound]
    simp [mt (hpublished e.id).mp hdone]
  begins quota hfree hroom := by
    rw [h.step_eq, attempt, hfree]
    simp only [hroom]
    rfl
  full e hfree hfull := by
    rw [h.step_eq, attempt, hfree]
    simp only [hfull]

/-- A call that waits for a setup stays so until it looks again or is given up. -/
theorem step_of_waiting (hm : m.Distinct) {entry sink : Nat} {request : SubscribeRequest}
    (hwaiting : m.call? call = some (.waiting entry request sink)) (hlook : label ≠ .resume call)
    (hstay : label ≠ .abandon call) (hstep : m.step policy sinks label = some r) :
    r.1.call? call = some (.waiting entry request sink) ∧
      ∀ result, .returned call result ∉ r.2 := by
  by_cases hown : label.call? = some call
  · rcases step_of_waits hwaiting rfl hown hstep with hgiven | ⟨hresumed, -⟩
    · exact absurd hgiven hstay
    · exact absurd hresumed hlook
  · exact (step_acts hstep).stays hm hwaiting rfl hown

theorem waitsOn_of_waiting (hm : m.Distinct) {published : Nat → Prop} {entry sink : Nat}
    {request : SubscribeRequest} (hwaiting : m.call? call = some (.waiting entry request sink))
    (hpublished : ∀ id, id ∈ m.announced ↔ published id) :
    WaitsOn policy sinks m published call entry request sink where
  active hdone := by simp [step, hwaiting, resume, (hpublished entry).mpr hdone]
  waits hdone hregistered := by
    simp [step, hwaiting, resume, mt (hpublished entry).mp hdone, hregistered]
  looks hdone hgone := .again hwaiting (mt (hpublished entry).mp hdone) hgone
  stays label r hlook hstay hstep := step_of_waiting hm hwaiting hlook hstay hstep

/-- Other calls let a setup be, apart from inputs that arrive for it. -/
theorem setup_of_others (hm : m.Distinct) (h : Act policy sinks m label r) {setup : Setup}
    (hpending : m.call? call = some (.settingUp setup)) (hne : label.call? ≠ some call) :
    ∃ setup', r.1.call? call = some (.settingUp setup') ∧ setup'.id = setup.id ∧
      setup'.request = setup.request := by
  have hsame := h.call?_of_ne hm hne
  rw [hpending, Option.map_some] at hsame
  obtain ⟨q, hq, heq⟩ := Option.map_eq_some_iff.mp hsame
  cases q with
  | settingUp setup' =>
      have hsetup : { setup' with inbox := Inbox.empty } = { setup with inbox := Inbox.empty } :=
        PendingCall.settingUp.inj heq
      obtain ⟨hid, hrequest, -⟩ := Setup.mk.inj hsetup
      exact ⟨setup', hq, hid, hrequest⟩
  | waiting | stopping | reading => cases heq

/-- The step of a call that sets a subscription up: it goes on to another stage, or it returns what
became of its setup. -/
theorem Act.of_settingUp (h : Act policy sinks m label r) {setup : Setup}
    (hpending : m.call? call = some (.settingUp setup)) (hown : label.call? = some call)
    (hstay : label ≠ .abandon call) :
    (∃ stage question, r = m.advance call setup stage question) ∨
      ∃ before result, r.2 = before ++ [.returned call result] ∧
        (Fails policy m call setup label result ∨
          result = .subscribed (.ok .started) ∧ Publishes m label r.2 setup.id) := by
  have hsetup : m.setupOf? call = some setup := setupOf?_of_call? hpending
  have hown' : ∀ {other : Nat}, label.call? = some other → other = call := fun hother =>
    Option.some.inj (hother.symm.trans hown)
  have hfresh : ∀ {other : Nat}, label.call? = some other → m.setupOf? other ≠ none := by
    intro other hother
    rw [hown' hother, hsetup]
    exact Option.some_ne_none setup
  cases h with
  | returns returns => exact absurd returns.setupOf? (hfresh returns.call?)
  | waits looks | begins looks => exact absurd looks.setupOf? (hfresh looks.call?)
  | stops stops fresh => exact absurd (setupOf?_of_fresh fresh) (hfresh (stops_call? stops))
  | reads fresh => exact absurd (setupOf?_of_fresh fresh) (hfresh rfl)
  | fails pending fails =>
      obtain rfl := hown' fails.call?
      rw [hpending] at pending
      cases pending
      exact .inr ⟨[], _, rfl, .inl fails⟩
  | advances pending advances =>
      obtain rfl := hown' advances.call?
      rw [hpending] at pending
      cases pending
      exact .inl ⟨_, _, rfl⟩
  | opens pending listing session =>
      obtain rfl := hown' rfl
      rw [hpending] at pending
      cases pending
      exact .inr ⟨_, _, List.append_cons _ _ _,
        .inr ⟨rfl, publishes_of_opens rfl hpending session _ _⟩⟩
  | abandons pending =>
      obtain rfl := hown' rfl
      exact absurd rfl hstay
  | reaches | precedes | ends | turns | setClock | bind => cases hown

/-- A slot stands for what is found under its target. -/
theorem Ledger.lookup?_of_slot (h : Ledger perCallerLimit globalLimit m) {s : Slot}
    (hs : s ∈ m.slots) : ∃ e, m.lookup? s.target = some e ∧ e.id = s.entry := by
  obtain ⟨e, he, hid, htarget⟩ := h.entry_of_slot hs
  rw [← htarget]
  exact ⟨e, h.lookup?_eq he, hid⟩

theorem setsUp_of_settingUp (hledger : Ledger perCallerLimit globalLimit m) {setup : Setup}
    (hpending : m.call? call = some (.settingUp setup)) : SetsUp policy sinks m call setup where
  registered := by
    have hmem := mem_setups hledger.distinct (setupOf?_of_call? hpending)
    exact hledger.lookup?_of_slot (List.mem_append_left _ (List.mem_map_of_mem hmem))
  goesOn label r hstay hstep := by
    have hact := step_acts hstep
    by_cases hown : label.call? = some call
    · rcases hact.of_settingUp hpending hown hstay with ⟨stage, question, rfl⟩ | hreturns
      · refine .inl ⟨{ setup with stage := stage }, m.call?_keepCall _ _, rfl, rfl, ?_⟩
        simp [advance]
      · exact .inr hreturns
    · obtain ⟨setup', hpending', hid, hrequest⟩ :=
        setup_of_others hledger.distinct hact hpending hown
      exact .inl ⟨setup', hpending', hid, hrequest,
        fun result hreturned => hown (hact.call?_of_returned hreturned)⟩

/-! ## Runs -/

/-- What follows when a call begins to stop an entry, from the state on that it leaves: unless it is
given up it returns only after all that was taken for the entry is given back, and whenever the
entry has a worker, also one that was not there before, that worker ends at its next turn without a
look at what waits for it. -/
structure StopsFor (policy : Policy) (sinks : SinkInterface σ) (m : Manager σ) (call id : Nat) :
    Prop where
  released : ∀ labels m' occurred, m.run policy sinks labels = some (m', occurred) →
    .abandon call ∉ labels → ∀ result, .returned call result ∈ occurred → m'.Released id
  halts : ∀ labels m' occurred, m.run policy sinks labels = some (m', occurred) →
    ∀ w ∈ m'.workers, w.id = id →
      m'.step policy sinks (.work w.target) = some (m'.endWorker w (w.haltedBy policy) [])

/-- A call that finds entries to stop tells them so and waits. -/
theorem step_of_stops {test : Entry → Bool} (hstops : label.Stops call test) {e : Entry}
    (he : e ∈ m.registry) (htest : test e = true) (hstep : m.step policy sinks label = some r) :
    r = ((m.cancelWhere test).keepCall call (.stopping ((m.registry.filter test).map Entry.id)),
      []) := by
  have hnonempty : ((m.registry.filter test).map Entry.id).isEmpty = false := by
    rw [List.isEmpty_eq_false_iff_exists_mem]
    exact ⟨e.id, List.mem_map_of_mem (List.mem_filter.mpr ⟨he, htest⟩)⟩
  have hbegin : m.beginStop call test = ((m.cancelWhere test).keepCall call
      (.stopping ((m.registry.filter test).map Entry.id)), []) := by
    simp only [beginStop, hnonempty]
    rfl
  cases hstops with
  | unsubscribe | shutdown =>
      obtain ⟨-, rfl⟩ := ifFresh_eq_some hstep
      exact hbegin

theorem Ledger.stopsFor (h : Ledger perCallerLimit globalLimit m) {test : Entry → Bool}
    (hstops : label.Stops call test) {e : Entry} (he : e ∈ m.registry) (htest : test e = true)
    (hstep : m.step policy sinks label = some r) :
    (∀ result, .returned call result ∉ r.2) ∧ StopsFor policy sinks r.1 call e.id := by
  have hledger := step_ledger h hstep
  have hpast : e.id < m.nextId := h.ids_lt e.key (List.mem_map_of_mem he)
  obtain rfl := step_of_stops hstops he htest hstep
  refine ⟨by simp, ⟨?_, ?_⟩⟩
  · intro labels m' occurred hrun hstay result hreturned
    have hid : e.id ∈ (m.registry.filter test).map Entry.id :=
      List.mem_map_of_mem (List.mem_filter.mpr ⟨he, htest⟩)
    rcases run_stopping hledger (call?_keepCall _ _ _) hid hpast hstay hrun with
      ⟨-, hsilent⟩ | hgone
    · exact absurd hreturned (hsilent result)
    · exact hgone.released (hledger.run hrun)
  · rintro labels m' occurred hrun w hw hid
    have hdoomed : Doomed ((m.cancelWhere test).keepCall call
        (.stopping ((m.registry.filter test).map Entry.id))) e.id := by
      refine ⟨hpast, fun f hf heq => ?_⟩
      obtain ⟨g, hg, rfl⟩ := List.mem_map.mp hf
      have hge : g = e := by
        refine List.inj_on_of_nodup_map h.nodup_ids hg he ?_
        rw [← heq]
        split <;> rfl
      rw [hge, if_pos htest]
    exact step_work_of_doomed (hledger.run hrun) hw (hid ▸ run_doomed hdoomed hrun)

/-- After any run of calls, answers, inputs and turns of workers, in any order: each target has one
owner and one open watch at most; a call that looks at the registry, or waits for a setup, has
nothing left to do exactly if the setup it found came to its first update in the run, and otherwise
looks again and sets up itself, with its own result, where no other setup is registered; and a call
to stop returns only after what it found is gone, whose worker takes nothing more. -/
theorem overlaps_settle {now : Instant} {world : σ} {bound : Option Nat} {labels : List Label}
    {occurred : List Occurrence}
    (hrun : (Manager.start now world bound (Quota.new perCallerLimit globalLimit)).run policy sinks
      labels = some (m, occurred)) :
    let published := fun id => PublishedIn policy sinks id
      (Manager.start now world bound (Quota.new perCallerLimit globalLimit)) labels
    (∀ target, OwnedOnce policy sinks m target) ∧
      (∀ label call request sink, Looks policy m label call request sink →
        LooksOn policy sinks m published label call request sink) ∧
      (∀ call entry request sink, m.call? call = some (.waiting entry request sink) →
        WaitsOn policy sinks m published call entry request sink) ∧
      (∀ call setup, m.call? call = some (.settingUp setup) → SetsUp policy sinks m call setup) ∧
      ∀ label call test, label.Stops call test → ∀ e ∈ m.registry, test e = true →
        ∀ r, m.step policy sinks label = some r →
          (∀ result, .returned call result ∉ r.2) ∧ StopsFor policy sinks r.1 call e.id := by
  intro published
  have hledger := run_ledger hrun
  have hpublished : ∀ id, id ∈ m.announced ↔ published id := by
    intro id
    rw [run_announced_iff hrun]
    exact or_iff_right List.not_mem_nil
  refine ⟨hledger.ownedOnce, ?_, ?_, ?_, ?_⟩
  · intro label call request sink hlooks
    exact hlooks.looksOn hpublished
  · intro call entry request sink hwaiting
    exact waitsOn_of_waiting hledger.distinct hwaiting hpublished
  · intro call setup hpending
    exact setsUp_of_settingUp hledger hpending
  · intro label call test hstops e he htest r hstep
    exact hledger.stopsFor hstops he htest hstep

/-- Two calls about one target overlap, and a third one stops it while the first sets it up.  The
setup goes on to its first update, and a change comes; the worker that it leaves does not turn to
that change, and the second call has nothing left to do. -/
theorem overlaps_settle_of_stopped_setup :
    ∃ m occurred stopped more left later,
      (Manager.start default () (some 0) (Quota.new 10 100)).run Policy.standard .accepting
        [ .subscribe 1 ⟨"ann", ⟨"ns", "a"⟩, none⟩, .fetched 1 (.ok (some .blank)),
          .watched 1 (.ok ()), .subscribe 2 ⟨"bob", ⟨"ns", "a"⟩, none⟩ ] = some (m, occurred) ∧
      m.openWatches ⟨"ns", "a"⟩ = 1 ∧ OwnedOnce Policy.standard .accepting m ⟨"ns", "a"⟩ ∧
      m.step Policy.standard .accepting (.unsubscribe 3 ⟨"ns", "a"⟩) = some (stopped, more) ∧
      stopped.run Policy.standard .accepting
        [ .eventsWatched 1 (.ok ()), .listed 1 (.ok []),
          .arrive ⟨"ns", "a"⟩ (.resource (.change ⟨.blank, .modified⟩)) ] = some (left, later) ∧
      ∃ w ∈ left.workers, w.inbox.resources.length = 1 ∧
        left.step Policy.standard .accepting (.work ⟨"ns", "a"⟩) =
          some (left.endWorker w .cancelled []) := by
  let before : List Label :=
    [ .subscribe 1 ⟨"ann", ⟨"ns", "a"⟩, none⟩, .fetched 1 (.ok (some .blank)),
      .watched 1 (.ok ()), .subscribe 2 ⟨"bob", ⟨"ns", "a"⟩, none⟩ ]
  let after : List Label :=
    [ .eventsWatched 1 (.ok ()), .listed 1 (.ok []),
      .arrive ⟨"ns", "a"⟩ (.resource (.change ⟨.blank, .modified⟩)) ]
  have hbegins : ((Manager.start default () (some 0) (Quota.new 10 100)).run Policy.standard
      .accepting before).map (fun m => (m.1.openWatches ⟨"ns", "a"⟩, m.1.registry)) =
      some (1, [⟨1, ⟨"ns", "a"⟩, false⟩]) := by
    decide +kernel
  have hends : ((Manager.start default () (some 0) (Quota.new 10 100)).run Policy.standard
      .accepting before).bind (fun m => (m.1.step Policy.standard .accepting
        (.unsubscribe 3 ⟨"ns", "a"⟩)).bind fun stopped =>
          (stopped.1.run Policy.standard .accepting after).map fun left =>
            left.1.workers.map fun w => (w.id, w.target, w.finished, w.inbox.resources.length)) =
      some [(1, ⟨"ns", "a"⟩, false, 1)] := by
    decide +kernel
  obtain ⟨⟨m, occurred⟩, hrun, hends⟩ := Option.bind_eq_some_iff.mp hends
  obtain ⟨⟨stopped, more⟩, hstop, hends⟩ := Option.bind_eq_some_iff.mp hends
  obtain ⟨⟨left, later⟩, hlater, hworkers⟩ := Option.map_eq_some_iff.mp hends
  rw [hrun, Option.map_some] at hbegins
  obtain ⟨hopen, hregistry⟩ := Prod.mk.inj (Option.some.inj hbegins)
  obtain ⟨w, hw, hread⟩ := List.map_eq_singleton_iff.mp hworkers
  simp only [Prod.mk.injEq] at hread
  obtain ⟨hid, htarget, hfinished, hwaits⟩ := hread
  obtain ⟨howned, -, -, -, hstops⟩ := overlaps_settle hrun
  have hentry : (⟨1, ⟨"ns", "a"⟩, false⟩ : Entry) ∈ m.registry := by
    rw [hregistry]
    exact List.mem_cons_self
  obtain ⟨-, hstopsFor⟩ := hstops _ 3 _ (.unsubscribe 3 ⟨"ns", "a"⟩) _ hentry (by decide) _ hstop
  have hmem : w ∈ left.workers := hw ▸ List.mem_cons_self
  have hhalts := hstopsFor.halts after left later hlater w hmem hid
  have hhalted : w.haltedBy Policy.standard = .cancelled := by
    rw [Worker.haltedBy, hfinished]
    decide +kernel
  rw [htarget, hhalted] at hhalts
  exact ⟨m, occurred, stopped, more, left, later, hrun, hopen, howned _, hstop, hlater, w, hmem,
    hwaits, hhalts⟩

end Manager
end ProvisionWatch

import ProvisionWatch.Proofs.Manager.Ledger
import ProvisionWatch.Proofs.Session.Endings

/-!
# The streams of a manager

What the sinks of a manager are handed belongs to targets, and for each target
it falls into streams: one for each subscription, one after the other.  A stream
is what one session says from its opening to its end.  So whatever holds of the
runs of sessions holds of the streams of a manager.

Main results:

- Theorem `step_chronicled`: a step continues the streams as the sessions say.
- Theorem `run_chronicled`: after any run each closed stream is the life of a
  session, and each open one is what the session of its worker said so far.
-/

namespace ProvisionWatch

/-! ## Streams -/

/-- The streams of one target: those that were closed, with their endings, and what was handed
over since. -/
structure Streams where
  closed : List (List Update × Ending)
  current : List Update

namespace Streams

/-- Nothing was handed over yet. -/
def empty : Streams :=
  { closed := [], current := [] }

/-- What becomes of the streams of a target when something occurs. -/
def note (target : Target) (s : Streams) : Occurrence → Streams
  | .delivered _ t u fate =>
      if t = target ∧ fate ≠ .coalesced then { s with current := s.current ++ [u] } else s
  | .closed t ending =>
      if t = target then { closed := s.closed ++ [(s.current, ending)], current := [] } else s
  | .asked _ | .returned _ _ | .opened _ | .watchError _ _ _ | .stalled _ => s

/-- An update is part of one of the streams. -/
def Holds (s : Streams) (u : Update) : Prop :=
  (∃ stream ∈ s.closed, u ∈ stream.1) ∨ u ∈ s.current

/-- What was handed over stays in its stream. -/
theorem Holds.note {s : Streams} {u : Update} (h : s.Holds u) (target : Target)
    (o : Occurrence) : (s.note target o).Holds u := by
  cases o with
  | delivered sink t v fate =>
      simp only [Streams.note]
      split
      · exact h.imp_right (List.mem_append_left [v])
      · exact h
  | closed t ending =>
      simp only [Streams.note]
      split
      · rcases h with ⟨stream, hstream, hu⟩ | hu
        · exact .inl ⟨stream, List.mem_append_left _ hstream, hu⟩
        · exact .inl ⟨_, List.mem_append_right _ List.mem_cons_self, hu⟩
      · exact h
  | asked | returned | opened | watchError | stalled => exact h

theorem Holds.foldl {s : Streams} {u : Update} (h : s.Holds u) (target : Target)
    (occurred : List Occurrence) : (occurred.foldl (Streams.note target) s).Holds u := by
  induction occurred generalizing s with
  | nil => exact h
  | cons o rest ih => exact ih (h.note target o)

end Streams

/-- The streams of a target in all that occurred. -/
def streamsOf (target : Target) (occurred : List Occurrence) : Streams :=
  occurred.foldl (Streams.note target) .empty

section Streams

variable (target : Target)

theorem streamsOf_append (before later : List Occurrence) :
    streamsOf target (before ++ later) =
      later.foldl (Streams.note target) (streamsOf target before) :=
  List.foldl_append

/-- What is handed over is part of a stream. -/
theorem streamsOf_holds {sink : Nat} {u : Update} {fate : Fate} {occurred : List Occurrence}
    (h : Occurrence.delivered sink target u fate ∈ occurred) (hfate : fate ≠ .coalesced) :
    (streamsOf target occurred).Holds u := by
  obtain ⟨before, later, rfl⟩ := List.append_of_mem h
  rw [streamsOf_append, List.foldl_cons]
  refine Streams.Holds.foldl (.inr ?_) target later
  rw [Streams.note, if_pos ⟨rfl, hfate⟩]
  exact List.mem_append_right _ List.mem_cons_self

/-- Questions and answers are no part of a stream. -/
theorem foldl_note_aside {occurred : List Occurrence} (h : ∀ o ∈ occurred, o.isAside = true)
    (s : Streams) : occurred.foldl (Streams.note target) s = s := by
  induction occurred generalizing s with
  | nil => rfl
  | cons o rest ih =>
      have ho := h o List.mem_cons_self
      have hnote : s.note target o = s := by
        cases o with
        | asked | returned => rfl
        | opened | delivered | watchError | stalled | closed => cases ho
      rw [List.foldl_cons, hnote]
      exact ih (fun p hp => h p (List.mem_cons_of_mem _ hp)) s

variable {σ : Type} (sinks : SinkInterface σ) (sink : Nat)

/-- The update that an effect hands over goes into the stream of its target. -/
theorem note_perform (place : Target) (world : σ) (e : Effect) (s : Streams) :
    s.note target (Manager.perform sinks sink place world e).2 =
      if place = target then { s with current := s.current ++ e.offered?.toList } else s := by
  cases e with
  | delivery d =>
      cases d with
      | offered u =>
          simp only [Manager.perform]
          rcases sinks.offer world sink place u with ⟨world', error⟩
          cases error with
          | none => simp [Streams.note, Effect.offered?, Delivery.offered?]
          | some e => simp [Streams.note, Effect.offered?, Delivery.offered?]
      | coalesced u => simp [Manager.perform, Streams.note, Effect.offered?, Delivery.offered?]
  | watchError stream kind => simp [Manager.perform, Streams.note, Effect.offered?]
  | stall => simp [Manager.perform, Streams.note, Effect.offered?]

/-- What effects hand over goes into the stream of their target, in order. -/
theorem foldl_note_performAll (place : Target) (world : σ) (effects : List Effect) (s : Streams) :
    (Manager.performAll sinks sink place world effects).2.foldl (Streams.note target) s =
      if place = target then { s with current := s.current ++ offeredUpdates effects } else s := by
  induction effects generalizing world s with
  | nil => simp [Manager.performAll]
  | cons e rest ih =>
      simp only [Manager.performAll, List.foldl_cons, note_perform]
      rw [ih]
      by_cases h : place = target
      · simp only [h, if_true, offeredUpdates]
        cases hoffered : e.offered? with
        | none => simp [hoffered]
        | some u => simp [hoffered]
      · simp only [h, if_false]

end Streams

/-! ## Lives -/

/-- An opening that a call about a target can come to. -/
def Opens (policy : Policy) (target : Target) (opening : Opening) : Prop :=
  ∃ request d listed hearsEvents now, request.target = target ∧
    Manager.openSession? policy request d listed hearsEvents now = some opening

/-- A stream is the life of a session: all that it says from its opening to its end.  The signals
come at readings of some kind. -/
inductive Life (policy : Policy) (readable : Instant → Prop) (target : Target) :
    List Update × Ending → Prop where
  | ended {opening : Opening} {signals : List (Instant × Signal)} {ending : Ending}
      (opens : Opens policy target opening) (readings : ∀ timed ∈ signals, readable timed.1)
      (ends : (opening.run signals).ending = some ending) :
      Life policy readable target ((opening.run signals).updates, ending)
  /-- There is no time between ticks. -/
  | brokeDown {opening : Opening} {signals : List (Instant × Signal)}
      (opens : Opens policy target opening) (readings : ∀ timed ∈ signals, readable timed.1)
      (going : (opening.run signals).ending = none)
      (tick : policy.config.tickInterval.isZero = true) :
      Life policy readable target ((opening.run signals).updates, .aborted)

/-- A worker has come as far as its session in a run from its opening on. -/
structure Lived (policy : Policy) (readable : Instant → Prop) (w : Worker) (said : List Update)
    (opening : Opening) (signals : List (Instant × Signal)) : Prop where
  opens : Opens policy w.target opening
  readings : ∀ timed ∈ signals, readable timed.1
  said : (opening.run signals).updates = said
  finished : opening.finished = w.finished
  going : w.finished = false → (opening.run signals).ending = none
  session : w.finished = false → (opening.run signals).session = w.session

/-- A run that goes on takes up where it was left. -/
theorem Opening.run_snoc {o : Opening} {signals : List (Instant × Signal)}
    (ho : o.finished = false) (hgoing : (o.run signals).ending = none) (now : Instant)
    (signal : Signal) :
    o.run (signals ++ [(now, signal)]) =
      { (o.run signals).session.take now signal with
        effects := (o.run signals).effects ++
          ((o.run signals).session.take now signal).effects } := by
  simp only [Opening.run_of_going ho] at hgoing ⊢
  rw [Session.run_snoc hgoing]
  simp only [List.append_assoc]

section Lives

variable {policy : Policy} {readable : Instant → Prop} {w : Worker} {said : List Update}
  {opening : Opening} {signals : List (Instant × Signal)}

/-- What waits for a worker is no part of its life. -/
theorem Lived.congr (h : Lived policy readable w said opening signals) {v : Worker}
    (hv : v.withoutInbox = w.withoutInbox) : Lived policy readable v said opening signals := by
  have htarget : v.target = w.target := congrArg (fun x => x.target) hv
  have hfinished : v.finished = w.finished := congrArg (fun x => x.finished) hv
  have hsession : v.session = w.session := congrArg (fun x => x.session) hv
  obtain ⟨opens, readings, said, finished, going, session⟩ := h
  rw [← htarget] at opens
  rw [← hfinished] at finished going session
  rw [← hsession] at session
  exact ⟨opens, readings, said, finished, going, session⟩

/-- A worker that turns to a signal says what its session says then. -/
theorem Lived.updates_snoc (h : Lived policy readable w said opening signals)
    (hrunning : w.finished = false) (now : Instant) (signal : Signal) :
    (opening.run (signals ++ [(now, signal)])).updates =
        said ++ (w.session.take now signal).updates ∧
      (opening.run (signals ++ [(now, signal)])).ending = (w.session.take now signal).ending ∧
      (opening.run (signals ++ [(now, signal)])).session =
        (w.session.take now signal).session := by
  rw [Opening.run_snoc (h.finished.trans hrunning) (h.going hrunning), h.session hrunning,
    ← h.said]
  exact ⟨offeredUpdates_append _ _, rfl, rfl⟩

theorem Lived.readings_snoc (h : Lived policy readable w said opening signals) {now : Instant}
    (hnow : readable now) (signal : Signal) :
    ∀ timed ∈ signals ++ [(now, signal)], readable timed.1 := by
  intro timed htimed
  rcases List.mem_append.mp htimed with htimed | htimed
  · exact h.readings timed htimed
  · rw [List.mem_singleton.mp htimed]
    exact hnow

end Lives

namespace Manager

variable {σ : Type} {policy : Policy} {sinks : SinkInterface σ}
variable {perCallerLimit globalLimit : Nat} {readable : Instant → Prop}

/-! ## The chronicle -/

/-- The streams agree with the workers: what was closed is the life of a session, a worker has come
as far as the open stream of its target, and without a worker no stream is open. -/
structure Chronicled (policy : Policy) (readable : Instant → Prop) (m : Manager σ)
    (occurred : List Occurrence) : Prop where
  closed : ∀ target, ∀ stream ∈ (streamsOf target occurred).closed,
    Life policy readable target stream
  current : ∀ w ∈ m.workers, ∃ opening signals,
    Lived policy readable w (streamsOf w.target occurred).current opening signals
  idle : ∀ target, (∀ w ∈ m.workers, w.target ≠ target) →
    (streamsOf target occurred).current = []

theorem chronicled_start (now : Instant) (world : σ) (bound : Option Nat) (quota : Quota) :
    Chronicled policy readable (Manager.start now world bound quota) [] where
  closed := fun _ _ h => absurd h List.not_mem_nil
  current := fun _ h => absurd h List.not_mem_nil
  idle := fun _ _ => rfl

variable {m : Manager σ} {occurred : List Occurrence} {r : Stepped σ}

/-! ## What steps add to the streams -/

/-- As long as nothing but questions and answers occurs the streams stay. -/
theorem streamsOf_aside {said : List Occurrence} (haside : ∀ o ∈ said, o.isAside = true)
    (target : Target) : streamsOf target (occurred ++ said) = streamsOf target occurred := by
  rw [streamsOf_append, foldl_note_aside target haside]

/-- What is said about one target leaves the streams of the others. -/
theorem streamsOf_performAll_of_ne {target place : Target} (hne : place ≠ target) (sink : Nat)
    (world : σ) (effects : List Effect) :
    streamsOf target (occurred ++ (performAll sinks sink place world effects).2) =
      streamsOf target occurred := by
  rw [streamsOf_append, foldl_note_performAll, if_neg hne]

/-- What is said about a target goes on with its open stream. -/
theorem streamsOf_performAll (place : Target) (sink : Nat) (world : σ) (effects : List Effect) :
    streamsOf place (occurred ++ (performAll sinks sink place world effects).2) =
      { streamsOf place occurred with
        current := (streamsOf place occurred).current ++ offeredUpdates effects } := by
  rw [streamsOf_append, foldl_note_performAll, if_pos rfl]

/-- What is said closes no stream. -/
theorem closed_performAll (target place : Target) (sink : Nat) (world : σ)
    (effects : List Effect) :
    (streamsOf target (occurred ++ (performAll sinks sink place world effects).2)).closed =
      (streamsOf target occurred).closed := by
  rw [streamsOf_append, foldl_note_performAll]
  split <;> rfl

/-- That a subscription has opened is no part of its stream. -/
theorem streamsOf_opening (target place : Target) (call : Nat) (said : List Occurrence) :
    streamsOf target (occurred ++
        (said ++ [.opened place, .returned call (.subscribed (.ok .started))])) =
      streamsOf target (occurred ++ said) := by
  rw [← List.append_assoc, streamsOf_append]
  rfl

/-- That a subscription has closed closes the stream of its target. -/
theorem streamsOf_closing (target place : Target) (ending : Ending) (said : List Occurrence) :
    streamsOf target (occurred ++ (said ++ [.closed place ending])) =
      if place = target then
        { closed := (streamsOf target (occurred ++ said)).closed ++
            [((streamsOf target (occurred ++ said)).current, ending)]
          current := [] }
      else streamsOf target (occurred ++ said) := by
  rw [← List.append_assoc, streamsOf_append]
  rfl

/-- The last words of a worker leave the streams of the other targets. -/
theorem Ends.streamsOf_of_ne {w : Worker} {ending : Ending} {said : List Occurrence}
    (h : Ends policy sinks m w ending said) {target : Target} (hne : w.target ≠ target) :
    streamsOf target (occurred ++ said) = streamsOf target occurred := by
  cases h with
  | finished | brokeDown => rw [List.append_nil]
  | turned running ticks signal ending ends => exact streamsOf_performAll_of_ne hne _ _ _

/-- The last words of a worker close no stream yet. -/
theorem Ends.closed_eq {w : Worker} {ending : Ending} {said : List Occurrence}
    (h : Ends policy sinks m w ending said) (target : Target) :
    (streamsOf target (occurred ++ said)).closed = (streamsOf target occurred).closed := by
  cases h with
  | finished | brokeDown => rw [List.append_nil]
  | turned running ticks signal ending ends => exact closed_performAll _ _ _ _ _

/-! ## How workers go on -/

/-- How a worker has come about in a step, and what was said with it in the open stream of its
target. -/
inductive Continues (policy : Policy) (m : Manager σ) (before after : List Occurrence)
    (v : Worker) : Prop where
  /-- It was there already and said nothing. -/
  | kept (w : Worker) (mem : w ∈ m.workers) (same : v.withoutInbox = w.withoutInbox)
      (said : (streamsOf v.target after).current = (streamsOf v.target before).current)
  /-- It begins with what its opening says. -/
  | opened (opening : Opening) (opens : Opens policy v.target opening)
      (session : v.session = opening.session) (finished : v.finished = opening.finished)
      (said : (streamsOf v.target after).current = offeredUpdates opening.effects)
  /-- It turned to a signal and goes on. -/
  | turned (w : Worker) (mem : w ∈ m.workers) (running : w.finished = false) (signal : Signal)
      (inbox : Inbox) (going : (w.session.take m.now signal).ending = none)
      (same : v = { w with session := (w.session.take m.now signal).session, inbox := inbox })
      (said : (streamsOf v.target after).current =
        (streamsOf v.target before).current ++ (w.session.take m.now signal).updates)

/-- Workers that are the same apart from their inboxes correspond to each other. -/
theorem exists_of_withoutInbox {l l' : List Worker}
    (h : l'.map Worker.withoutInbox = l.map Worker.withoutInbox) {v : Worker} (hv : v ∈ l') :
    ∃ w ∈ l, v.withoutInbox = w.withoutInbox := by
  have hmem : v.withoutInbox ∈ l.map Worker.withoutInbox := h ▸ List.mem_map_of_mem hv
  obtain ⟨w, hw, hvw⟩ := List.mem_map.mp hmem
  exact ⟨w, hw, hvw.symm⟩

/-- A worker in an updated list is the new one, or has another number. -/
theorem mem_updateWorker {v w : Worker} (hv : v ∈ (m.updateWorker w).workers) :
    v = w ∨ v ∈ m.workers ∧ v.id ≠ w.id := by
  obtain ⟨u, hu, heq⟩ := List.mem_map.mp hv
  by_cases hid : u.id = w.id
  · refine .inl ?_
    rw [← heq, if_pos (beq_iff_eq.mpr hid)]
  · have huv : u = v := by
      rw [← heq, if_neg (by simpa using hid)]
    exact .inr ⟨huv ▸ hu, huv ▸ hid⟩

/-- Every worker has its successor in an updated list. -/
theorem exists_mem_updateWorker {v w : Worker} (hledger : Ledger perCallerLimit globalLimit m)
    (hv : v ∈ m.workers) (hw : w ∈ m.workers) {w' : Worker} (hid : w'.id = w.id)
    (htarget : w'.target = w.target) :
    ∃ u ∈ (m.updateWorker w').workers, u.target = v.target := by
  refine ⟨_, List.mem_map_of_mem hv, ?_⟩
  by_cases hsame : v.id = w'.id
  · rw [if_pos (beq_iff_eq.mpr hsame), htarget,
      hledger.distinct.worker_eq hv hw (hsame.trans hid)]
  · rw [if_neg (by simpa using hsame)]

/-- Workers of other numbers have other targets. -/
theorem Ledger.target_ne_of_id (h : Ledger perCallerLimit globalLimit m) {v w : Worker}
    (hv : v ∈ m.workers) (hw : w ∈ m.workers) (hid : v.id ≠ w.id) : w.target ≠ v.target := by
  intro heq
  rw [h.worker_eq hv hw heq.symm] at hid
  exact hid rfl

/-- After a step every worker was there before, or begins, or has turned to a signal. -/
theorem Change.continues (h : Change policy sinks m r)
    (hledger : Ledger perCallerLimit globalLimit m)
    (hidle : ∀ target, (∀ w ∈ m.workers, w.target ≠ target) →
      (streamsOf target occurred).current = [])
    {v : Worker} (hv : v ∈ r.1.workers) : Continues policy m occurred (occurred ++ r.2) v := by
  cases h with
  | none keys nextId quota slots workers aside =>
      obtain ⟨w, hw, hsame⟩ := exists_of_withoutInbox workers hv
      exact .kept w hw hsame (congrArg Streams.current (streamsOf_aside aside _))
  | begun slot free entry quota keys nextId slots workers aside
  | givenUp setup mem registry nextId quota slots workers aside =>
      rw [workers] at hv
      exact .kept v hv rfl (congrArg Streams.current (streamsOf_aside aside _))
  | opened setup mem d listed hearsEvents opening opens w slot session finished registry nextId
      quota slots workers call occurs =>
      have htarget : setup.request.target = w.target := (congrArg Slot.target slot).symm
      have hfree : ∀ u ∈ m.workers, u.target ≠ w.target := fun u hu =>
        htarget ▸ hledger.target_ne_of_setup mem hu
      rw [occurs]
      rw [workers] at hv
      rcases List.mem_append.mp hv with hv | hv
      · refine .kept v hv rfl ?_
        rw [streamsOf_opening, streamsOf_performAll_of_ne (hfree v hv).symm]
      · obtain rfl := List.mem_singleton.mp hv
        refine .opened opening ⟨setup.request, d, listed, hearsEvents, m.now, htarget, opens⟩
          session finished ?_
        rw [streamsOf_opening, streamsOf_performAll, hidle v.target hfree, List.nil_append]
  | turned w mem running signal inbox going registry nextId quota slots workers occurs =>
      rw [occurs]
      rw [workers] at hv
      rcases mem_updateWorker hv with rfl | ⟨hv, hid⟩
      · refine .turned w mem running signal inbox going rfl ?_
        rw [streamsOf_performAll]
        rfl
      · refine .kept v hv rfl ?_
        rw [streamsOf_performAll_of_ne (hledger.target_ne_of_id hv mem hid)]
  | ended w mem ending said ends registry nextId quota slots workers occurs =>
      rw [occurs]
      rw [workers] at hv
      obtain ⟨hv, hid⟩ := List.mem_filter.mp hv
      have hne : w.target ≠ v.target := hledger.target_ne_of_id hv mem (by simpa using hid)
      refine .kept v hv rfl ?_
      rw [streamsOf_closing, if_neg hne, ends.streamsOf_of_ne hne]

/-- After a step no stream is open without a worker. -/
theorem Change.idle (h : Change policy sinks m r) (hledger : Ledger perCallerLimit globalLimit m)
    (hidle : ∀ target, (∀ w ∈ m.workers, w.target ≠ target) →
      (streamsOf target occurred).current = [])
    {target : Target} (hnone : ∀ v ∈ r.1.workers, v.target ≠ target) :
    (streamsOf target (occurred ++ r.2)).current = [] := by
  cases h with
  | none keys nextId quota slots workers aside =>
      rw [streamsOf_aside aside]
      refine hidle target fun w hw heq => ?_
      obtain ⟨v, hv, hsame⟩ := exists_of_withoutInbox workers.symm hw
      have htarget : w.target = v.target := congrArg (fun x => x.target) hsame
      exact hnone v hv (htarget ▸ heq)
  | begun slot free entry quota keys nextId slots workers aside
  | givenUp setup mem registry nextId quota slots workers aside =>
      rw [streamsOf_aside aside]
      exact hidle target fun w hw => hnone w (workers ▸ hw)
  | opened setup mem d listed hearsEvents opening opens w slot session finished registry nextId
      quota slots workers call occurs =>
      rw [workers] at hnone
      rw [occurs, streamsOf_opening, streamsOf_performAll_of_ne (hnone w (by simp))]
      exact hidle target fun v hv => hnone v (List.mem_append_left _ hv)
  | turned w mem running signal inbox going registry nextId quota slots workers occurs =>
      rw [workers] at hnone
      have hold : ∀ v ∈ m.workers, v.target ≠ target := by
        intro v hv heq
        obtain ⟨u, hu, htarget⟩ : ∃ u ∈ (m.updateWorker
            { w with session := (w.session.take m.now signal).session, inbox := inbox }).workers,
            u.target = v.target :=
          exists_mem_updateWorker hledger hv mem rfl rfl
        exact hnone u hu (htarget.trans heq)
      rw [occurs, streamsOf_performAll_of_ne (hold w mem)]
      exact hidle target hold
  | ended w mem ending said ends registry nextId quota slots workers occurs =>
      rw [occurs, streamsOf_closing]
      split
      · rfl
      · rename_i hne
        rw [ends.streamsOf_of_ne hne]
        refine hidle target fun v hv heq => ?_
        have hid : v.id ≠ w.id := by
          intro hid
          rw [hledger.distinct.worker_eq hv mem hid] at heq
          exact hne heq
        exact hnone v (workers ▸ List.mem_filter.mpr ⟨hv, by simpa using hid⟩) heq

/-- A stream that is closed after a step was closed before, or is that of a worker that ends. -/
theorem Change.closes (h : Change policy sinks m r) {target : Target}
    {stream : List Update × Ending}
    (hstream : stream ∈ (streamsOf target (occurred ++ r.2)).closed) :
    stream ∈ (streamsOf target occurred).closed ∨
      ∃ w ∈ m.workers, w.target = target ∧ ∃ ending said, Ends policy sinks m w ending said ∧
        stream = ((streamsOf target (occurred ++ said)).current, ending) := by
  cases h with
  | none keys nextId quota slots workers aside
  | begun slot free entry quota keys nextId slots workers aside
  | givenUp setup mem registry nextId quota slots workers aside =>
      rw [streamsOf_aside aside] at hstream
      exact .inl hstream
  | opened setup mem d listed hearsEvents opening opens w slot session finished registry nextId
      quota slots workers call occurs =>
      rw [occurs, streamsOf_opening, closed_performAll] at hstream
      exact .inl hstream
  | turned w mem running signal inbox going registry nextId quota slots workers occurs =>
      rw [occurs, closed_performAll] at hstream
      exact .inl hstream
  | ended w mem ending said ends registry nextId quota slots workers occurs =>
      rw [occurs, streamsOf_closing] at hstream
      split at hstream
      · rename_i htarget
        rcases List.mem_append.mp hstream with hstream | hstream
        · rw [ends.closed_eq] at hstream
          exact .inl hstream
        · exact .inr ⟨w, mem, htarget, ending, said, ends, List.mem_singleton.mp hstream⟩
      · rw [ends.closed_eq] at hstream
        exact .inl hstream

/-! ## Lives go on -/

/-- What a worker goes on with is its life so far. -/
theorem Continues.lived {before after : List Occurrence} {v : Worker}
    (h : Continues policy m before after v) (hnow : readable m.now)
    (hcurrent : ∀ w ∈ m.workers, ∃ opening signals,
      Lived policy readable w (streamsOf w.target before).current opening signals) :
    ∃ opening signals,
      Lived policy readable v (streamsOf v.target after).current opening signals := by
  cases h with
  | kept w mem same said =>
      obtain ⟨opening, signals, hlived⟩ := hcurrent w mem
      have htarget : v.target = w.target := congrArg (fun x => x.target) same
      rw [said, htarget]
      exact ⟨opening, signals, hlived.congr same⟩
  | opened opening opens session finished said =>
      rw [said]
      refine ⟨opening, [], opens, fun _ h => absurd h List.not_mem_nil, ?_, finished.symm, ?_, ?_⟩
      · cases ho : opening.finished with
        | true =>
            rw [Opening.run_of_finished ho]
            rfl
        | false =>
            rw [Opening.run_of_going ho]
            exact congrArg offeredUpdates (List.append_nil _)
      · intro hgoing
        rw [Opening.run_of_going (finished ▸ hgoing)]
        rfl
      · intro hgoing
        rw [Opening.run_of_going (finished ▸ hgoing), session]
        rfl
  | turned w mem running signal inbox going same said =>
      subst same
      obtain ⟨opening, signals, hlived⟩ := hcurrent w mem
      obtain ⟨hupdates, hending, hsession⟩ := hlived.updates_snoc running m.now signal
      rw [said]
      exact ⟨opening, signals ++ [(m.now, signal)], hlived.opens,
        hlived.readings_snoc hnow signal, hupdates, hlived.finished,
        fun _ => hending.trans going, fun _ => hsession⟩

/-- What a worker has said when it ends is the life of its session. -/
theorem life_of_ends {w : Worker} {opening : Opening} {signals : List (Instant × Signal)}
    (h : Lived policy readable w (streamsOf w.target occurred).current opening signals)
    (hnow : readable m.now) {ending : Ending} {said : List Occurrence}
    (hends : Ends policy sinks m w ending said) :
    Life policy readable w.target
      ((streamsOf w.target (occurred ++ said)).current, ending) := by
  cases hends with
  | finished hfinished =>
      rw [List.append_nil, ← h.said]
      refine .ended h.opens h.readings ?_
      rw [Opening.run_of_finished (h.finished.trans hfinished)]
  | brokeDown hrunning htick =>
      rw [List.append_nil, ← h.said]
      exact .brokeDown h.opens h.readings (h.going hrunning) htick
  | turned hrunning htick signal ending hending =>
      obtain ⟨hupdates, hlast, -⟩ := h.updates_snoc hrunning m.now signal
      have hlife := Life.ended h.opens (h.readings_snoc hnow signal) (hlast.trans hending)
      rw [hupdates] at hlife
      rw [streamsOf_performAll]
      exact hlife

/-! ## Steps and runs -/

/-- A step continues the streams as the sessions say. -/
theorem step_chronicled (h : Chronicled policy readable m occurred)
    (hledger : Ledger perCallerLimit globalLimit m) (hnow : readable m.now) {label : Label}
    (hstep : m.step policy sinks label = some r) :
    Chronicled policy readable r.1 (occurred ++ r.2) := by
  have hchange := (step_moves hledger.distinct hstep).change
  refine ⟨?_, ?_, fun target hnone => hchange.idle hledger h.idle hnone⟩
  · intro target stream hstream
    rcases hchange.closes hstream with hstream | ⟨w, hw, rfl, ending, said, hends, rfl⟩
    · exact h.closed target stream hstream
    · obtain ⟨opening, signals, hlived⟩ := h.current w hw
      exact life_of_ends hlived hnow hends
  · intro v hv
    exact (hchange.continues hledger h.idle hv).lived hnow h.current

/-- After any run the streams agree with the workers, also about the readings of the clock. -/
theorem run_chronicled {now : Instant} {world : σ} {bound : Option Nat} {labels : List Label}
    (hnow : readable now) (hclock : ∀ t, Label.setClock t ∈ labels → readable t)
    (h : (Manager.start now world bound (Quota.new perCallerLimit globalLimit)).run policy sinks
      labels = some (m, occurred)) : Chronicled policy readable m occurred := by
  refine (run_induction (motive := fun m occurred => Ledger perCallerLimit globalLimit m ∧
    readable m.now ∧ Chronicled policy readable m occurred) ?_
    ⟨ledger_start now world bound, hnow, chronicled_start now world bound _⟩ h).2.2
  rintro m before label m' more hlabel ⟨hledger, hreadable, hchronicled⟩ hstep
  refine ⟨step_ledger hledger hstep, ?_, step_chronicled hchronicled hledger hreadable hstep⟩
  rw [(step_moves hledger.distinct hstep).now]
  cases label with
  | setClock t => exact hclock t hlabel
  | _ => exact hreadable

end Manager
end ProvisionWatch

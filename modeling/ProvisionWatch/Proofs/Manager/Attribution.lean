import ProvisionWatch.Proofs.Manager.Overlap
import ProvisionWatch.Proofs.Manager.Footprint

/-!
# What steps and calls are about

A call is about one target from its beginning on, and so are the steps it takes.
What it remembers of the registry are numbers of entries, and these stand for
its target and for no other, also after the entries are gone.  So the calls of a
manager fall apart into those about a target and the others.

Main results:

- Theorem `attributed_of_nodup`: where calls have numbers of their own, each is
  about a target from its first step on.
- Theorem `Act.keeps`: what a pending call can be after a step.
- Theorem `step_apart`: calls about a target stay apart from the others.
-/

namespace ProvisionWatch

/-! ## Steps -/

namespace Label

/-- The number under which a step begins a call. -/
def begins? : Label → Option Nat
  | subscribe call _ | unsubscribe call _ | shutdown call | readState call _ => some call
  | fetched _ _ | watched _ _ | eventsWatched _ _ | listed _ _ | resume _ | abandon _ | arrive _ _
  | work _ | setClock _ | bind _ => none

/-- The number under which a step begins a call about a target. -/
def beginsAbout? (target : Target) : Label → Option Nat
  | subscribe call request => if request.target = target then some call else none
  | unsubscribe call place | readState call place => if place = target then some call else none
  | shutdown _ | fetched _ _ | watched _ _ | eventsWatched _ _ | listed _ _ | resume _ | abandon _
  | arrive _ _ | work _ | setClock _ | bind _ => none

/-- Whether a step concerns a target, where `calls` are those about it.  A call to stop everything
concerns every target when it begins; that it waits then concerns none. -/
def concerns (target : Target) (calls : List Nat) : Label → Bool
  | subscribe call _ | unsubscribe call _ | readState call _ | fetched call _ | watched call _
  | eventsWatched call _ | listed call _ | resume call | abandon call => calls.contains call
  | arrive place _ | work place => place == target
  | shutdown _ | setClock _ | bind _ => true

/-- Where `calls` are those about a target, a step begins one of them exactly if it begins a call
about the target. -/
def Attributed (target : Target) (calls : List Nat) (label : Label) : Prop :=
  ∀ call, label.begins? = some call → (call ∈ calls ↔ label.beginsAbout? target = some call)

/-- A call about a target begins under its number. -/
theorem begins?_of_beginsAbout? {target : Target} {label : Label} {call : Nat}
    (h : label.beginsAbout? target = some call) : label.begins? = some call := by
  cases label with
  | subscribe | unsubscribe | readState =>
      exact (Option.ite_none_right_eq_some.mp h).2
  | shutdown | fetched | watched | eventsWatched | listed | resume | abandon | arrive | work
  | setClock | bind => cases h

/-- The steps of the calls about a target concern it. -/
theorem concerns_of_mem {target : Target} {calls : List Nat} {label : Label} {call : Nat}
    (hown : label.call? = some call) (hmem : call ∈ calls) :
    label.concerns target calls = true := by
  cases label with
  | subscribe | unsubscribe | readState | fetched | watched | eventsWatched | listed | resume
  | abandon =>
      obtain rfl := Option.some.inj hown
      exact List.contains_iff_mem.mpr hmem
  | shutdown => rfl
  | arrive | work | setClock | bind => cases hown

theorem not_mem_of_concerns {target : Target} {calls : List Nat} {label : Label} {call : Nat}
    (hown : label.call? = some call) (hother : label.concerns target calls = false) :
    call ∉ calls := by
  intro hmem
  rw [concerns_of_mem hown hmem] at hother
  cases hother

end Label

/-- The numbers of the calls about a target, in the order in which they begin. -/
def callsAbout (target : Target) (labels : List Label) : List Nat :=
  labels.filterMap (Label.beginsAbout? target)

/-- Where a function picks nothing twice, what is picked tells where it comes from. -/
theorem eq_of_nodup_filterMap {α β : Type} {f : α → Option β} {l : List α}
    (h : (l.filterMap f).Nodup) {a b : α} (ha : a ∈ l) (hb : b ∈ l) {c : β} (hfa : f a = some c)
    (hfb : f b = some c) : a = b := by
  induction l with
  | nil => cases ha
  | cons x rest ih =>
      have hrest : ∀ y ∈ rest, f y = some c → f x = some c → False := by
        intro y hy hfy hfx
        rw [List.filterMap_cons_some hfx, List.nodup_cons] at h
        exact h.1 (List.mem_filterMap.mpr ⟨y, hy, hfy⟩)
      have hnodup : (rest.filterMap f).Nodup := by
        cases hfx : f x with
        | none => rwa [List.filterMap_cons_none hfx] at h
        | some d =>
            rw [List.filterMap_cons_some hfx] at h
            exact (List.nodup_cons.mp h).2
      rcases List.mem_cons.mp ha with hax | hax
      · rcases List.mem_cons.mp hb with hbx | hbx
        · exact hax.trans hbx.symm
        · exact (hrest b hbx hfb (hax ▸ hfa)).elim
      · rcases List.mem_cons.mp hb with hbx | hbx
        · exact (hrest a hax hfa (hbx ▸ hfb)).elim
        · exact ih hnodup hax hbx

/-- Where calls have numbers of their own, each is about a target from its first step on. -/
theorem attributed_of_nodup {labels : List Label} (h : (labels.filterMap Label.begins?).Nodup)
    (target : Target) {label : Label} (hlabel : label ∈ labels) :
    label.Attributed target (callsAbout target labels) := by
  intro call hbegins
  constructor
  · intro hmem
    obtain ⟨other, hother, habout⟩ := List.mem_filterMap.mp hmem
    have hsame : other = label :=
      eq_of_nodup_filterMap h hother hlabel (Label.begins?_of_beginsAbout? habout) hbegins
    rwa [hsame] at habout
  · intro habout
    exact List.mem_filterMap.mpr ⟨label, hlabel, habout⟩

namespace Manager

variable {σ : Type} {policy : Policy} {sinks : SinkInterface σ} {perCallerLimit globalLimit : Nat}
variable {target : Target} {calls : List Nat}
variable {m : Manager σ} {label : Label} {call id : Nat} {r : Stepped σ}

/-! ## Numbers of entries -/

/-- A number was given to an entry, and as long as that is registered it is one of the target. -/
structure StandsFor (m : Manager σ) (target : Target) (id : Nat) : Prop where
  past : id < m.nextId
  target_eq : ∀ e ∈ m.registry, e.id = id → e.target = target

/-- The entries that are registered after a step were so before, under their numbers, or one is
entered by a call that looks. -/
theorem Act.registered (h : Act policy sinks m label r) {e : Entry} (he : e ∈ r.1.registry) :
    (∃ f ∈ m.registry, f.key = e.key) ∨
      e.id = m.nextId ∧
        ∃ call request sink,
          Looks policy m label call request sink ∧ request.target = e.target := by
  have hkept : ∀ {f : Entry}, f ∈ m.registry → f = e → ∃ f ∈ m.registry, f.key = e.key :=
    fun hf heq => ⟨_, hf, congrArg Entry.key heq⟩
  cases h with
  | begins looks free room =>
      rcases List.mem_append.mp he with he | he
      · exact .inl (hkept he rfl)
      · rw [List.mem_singleton.mp he]
        exact .inr ⟨rfl, _, _, _, looks, rfl⟩
  | fails | ends => exact .inl (hkept (List.mem_of_mem_filter he) rfl)
  | @abandons _ p pending =>
      cases p with
      | settingUp => exact .inl (hkept (List.mem_of_mem_filter he) rfl)
      | waiting | stopping | reading => exact .inl (hkept he rfl)
  | stops stops fresh =>
      obtain ⟨f, hf, rfl⟩ := List.mem_map.mp he
      refine .inl ⟨f, hf, ?_⟩
      split <;> rfl
  | returns | waits | advances | opens | reads | reaches | precedes | turns | setClock | bind =>
      exact .inl (hkept he rfl)

/-- A number stands for its target for good. -/
theorem Act.standsFor (h : Act policy sinks m label r) (hstands : m.StandsFor target id) :
    r.1.StandsFor target id := by
  refine ⟨Nat.lt_of_lt_of_le hstands.past h.entry.1, fun e he hid => ?_⟩
  rcases h.registered he with ⟨f, hf, hkey⟩ | ⟨hnew, -⟩
  · obtain ⟨hfid, hftarget⟩ := Prod.mk.inj hkey
    rw [← hftarget]
    exact hstands.target_eq f hf (hfid.trans hid)
  · exact absurd (hid.symm.trans hnew) (Nat.ne_of_lt hstands.past)

/-- The number of a registered entry stands for the target of that entry. -/
theorem Ledger.standsFor (h : Ledger perCallerLimit globalLimit m) {e : Entry}
    (he : e ∈ m.registry) : m.StandsFor e.target e.id where
  past := h.ids_lt e.key (List.mem_map_of_mem he)
  target_eq f hf hid := by
    rw [List.inj_on_of_nodup_map h.nodup_ids hf he hid]

/-! ## Calls -/

/-- A pending call is about a target, and the numbers it remembers stand for that. -/
def IsAbout (m : Manager σ) (target : Target) : PendingCall → Prop
  | .waiting entry request _ => request.target = target ∧ m.StandsFor target entry
  | .settingUp setup => setup.request.target = target
  | .stopping entries => ∀ id ∈ entries, m.StandsFor target id
  | .reading place => place = target

/-- The pending calls fall apart into those about a target and the others. -/
structure Apart (target : Target) (calls : List Nat) (m : Manager σ) : Prop where
  own : ∀ call ∈ calls, ∀ p, m.call? call = some p → m.IsAbout target p
  others : ∀ call, call ∉ calls → ∀ p, m.call? call = some p → p.target? ≠ some target
  announced_lt : ∀ id ∈ m.announced, id < m.nextId

theorem apart_start (now : Instant) (world : σ) (bound : Option Nat) (quota : Quota) :
    Apart target calls (Manager.start now world bound quota) where
  own _ _ _ h := nomatch h
  others _ _ _ h := nomatch h
  announced_lt _ h := nomatch h

/-- What a pending call can be after a step. -/
inductive Keeps (policy : Policy) (m : Manager σ) (label : Label) (call : Nat) :
    PendingCall → Prop where
  | same {p : PendingCall} (pending : m.call? call = some p) : Keeps policy m label call p
  | waits {request : SubscribeRequest} {sink : Nat} {entry : Entry}
      (looks : Looks policy m label call request sink)
      (found : m.lookup? request.target = some entry) :
      Keeps policy m label call (.waiting entry.id request sink)
  | begins {request : SubscribeRequest} {sink : Nat} {setup : Setup}
      (looks : Looks policy m label call request sink) (request_eq : setup.request = request) :
      Keeps policy m label call (.settingUp setup)
  | goesOn {setup setup' : Setup} (pending : m.call? call = some (.settingUp setup))
      (request_eq : setup'.request = setup.request) :
      Keeps policy m label call (.settingUp setup')
  | stops {test : Entry → Bool} (stops : label.Stops call test) :
      Keeps policy m label call (.stopping ((m.registry.filter test).map Entry.id))
  | reads {place : Target} (reads : label = .readState call place) :
      Keeps policy m label call (.reading place)

theorem call?_of_dropCall {other : Nat} {p : PendingCall}
    (h : (m.dropCall other).call? call = some p) : m.call? call = some p := by
  by_cases heq : call = other
  · rw [heq, call?_dropCall] at h
    cases h
  · rwa [call?_dropCall_of_ne m heq] at h

theorem call?_of_keepCall {other : Nat} {p q : PendingCall}
    (h : (m.keepCall other q).call? call = some p) :
    call = other ∧ p = q ∨ m.call? call = some p := by
  by_cases heq : call = other
  · rw [heq, call?_keepCall] at h
    exact .inl ⟨heq, (Option.some.inj h).symm⟩
  · rw [call?_keepCall_of_ne m q heq] at h
    exact .inr h

/-- What a pending call can be after a step. -/
theorem Act.keeps (hm : m.Distinct) (h : Act policy sinks m label r) {p : PendingCall}
    (hp : r.1.call? call = some p) : Keeps policy m label call p := by
  cases h with
  | returns | opens => exact .same (call?_of_dropCall hp)
  | @fails other setup result pending fails =>
      exact .same (call?_of_dropCall (m := m.unregister _ _) hp)
  | @abandons other q pending =>
      cases q with
      | settingUp setup => exact .same (call?_of_dropCall (m := m.unregister _ _) hp)
      | waiting | stopping | reading => exact .same (call?_of_dropCall hp)
  | waits looks found unannounced =>
      rcases call?_of_keepCall hp with ⟨rfl, rfl⟩ | hp
      · exact .waits looks found
      · exact .same hp
  | @begins _ _ request sink quota looks free room =>
      rcases call?_of_keepCall hp with ⟨rfl, rfl⟩ | hp
      · exact .begins looks rfl
      · exact .same hp
  | advances pending advances =>
      rcases call?_of_keepCall hp with ⟨rfl, rfl⟩ | hp
      · exact .goesOn pending rfl
      · exact .same hp
  | precedes found =>
      rcases call?_of_keepCall hp with ⟨rfl, rfl⟩ | hp
      · exact .goesOn (call?_of_setup? hm found) rfl
      · exact .same hp
  | stops stops fresh =>
      rcases call?_of_keepCall hp with ⟨rfl, rfl⟩ | hp
      · exact .stops stops
      · exact .same hp
  | reads fresh sound allowed =>
      rcases call?_of_keepCall hp with ⟨rfl, rfl⟩ | hp
      · exact .reads rfl
      · exact .same hp
  | reaches | ends | turns | setClock | bind => exact .same hp

/-- A call that looks at the registry is one of those about its target. -/
theorem Apart.looks_iff (h : Apart target calls m) (hattributed : label.Attributed target calls)
    {request : SubscribeRequest} {sink : Nat} (hlooks : Looks policy m label call request sink) :
    call ∈ calls ↔ request.target = target := by
  cases hlooks with
  | anew fresh passes bound =>
      rw [hattributed call rfl]
      simp [Label.beginsAbout?]
  | again waiting unannounced gone =>
      constructor
      · intro hmem
        exact (h.own call hmem _ waiting).1
      · intro htarget
        by_contra hmem
        exact h.others call hmem _ waiting (congrArg some htarget)

/-- What the calls about a target keep is about it. -/
theorem Keeps.isAbout (h : Apart target calls m) (hledger : Ledger perCallerLimit globalLimit m)
    (hattributed : label.Attributed target calls) (hmem : call ∈ calls) {p : PendingCall}
    (hkeeps : Keeps policy m label call p) : m.IsAbout target p := by
  cases hkeeps with
  | same pending => exact h.own call hmem p pending
  | waits looks found =>
      obtain rfl := (h.looks_iff hattributed looks).mp hmem
      obtain ⟨hentry, htarget⟩ := mem_of_lookup? found
      exact ⟨rfl, htarget ▸ hledger.standsFor hentry⟩
  | begins looks request_eq =>
      have htarget := (h.looks_iff hattributed looks).mp hmem
      rwa [← request_eq] at htarget
  | @goesOn setup setup' pending request_eq =>
      have htarget : setup.request.target = target := h.own call hmem _ pending
      rwa [← request_eq] at htarget
  | stops stops =>
      intro id hid
      obtain ⟨e, he, rfl⟩ := List.mem_map.mp hid
      obtain ⟨hentry, htest⟩ := List.mem_filter.mp he
      cases stops with
      | unsubscribe _ place =>
          have hplace : place = target :=
            (Option.ite_none_right_eq_some.mp ((hattributed call rfl).mp hmem)).1
          obtain rfl : e.target = target := (beq_iff_eq.mp htest).trans hplace
          exact hledger.standsFor hentry
      | shutdown =>
          have habout := (hattributed call rfl).mp hmem
          cases habout
  | reads reads =>
      subst reads
      exact (Option.ite_none_right_eq_some.mp ((hattributed call rfl).mp hmem)).1

/-- What the other calls keep is about other targets, or about none. -/
theorem Keeps.target?_ne (h : Apart target calls m) (hattributed : label.Attributed target calls)
    (hmem : call ∉ calls) {p : PendingCall} (hkeeps : Keeps policy m label call p) :
    p.target? ≠ some target := by
  intro htarget
  cases hkeeps with
  | same pending => exact h.others call hmem p pending htarget
  | waits looks found =>
      exact hmem ((h.looks_iff hattributed looks).mpr (Option.some.inj htarget))
  | begins looks request_eq =>
      rw [← request_eq] at looks
      exact hmem ((h.looks_iff hattributed looks).mpr (Option.some.inj htarget))
  | @goesOn setup setup' pending request_eq =>
      refine h.others call hmem _ pending ?_
      rw [← htarget, PendingCall.target?, PendingCall.target?, request_eq]
  | stops => cases htarget
  | reads reads =>
      subst reads
      exact hmem ((hattributed call rfl).mpr (if_pos (Option.some.inj htarget)))

/-- Calls about a target stay apart from the others. -/
theorem step_apart (h : Apart target calls m) (hledger : Ledger perCallerLimit globalLimit m)
    (hattributed : label.Attributed target calls) (hstep : m.step policy sinks label = some r) :
    Apart target calls r.1 := by
  have hact : Act policy sinks m label r := step_acts hstep
  have hnext : m.nextId ≤ r.1.nextId := hact.entry.1
  refine ⟨?_, ?_, ?_⟩
  · intro call hmem p hp
    have habout := (hact.keeps hledger.distinct hp).isAbout h hledger hattributed hmem
    cases p with
    | waiting entry request sink => exact ⟨habout.1, hact.standsFor habout.2⟩
    | settingUp | reading => exact habout
    | stopping entries => exact fun id hid => hact.standsFor (habout id hid)
  · intro call hmem p hp
    exact (hact.keeps hledger.distinct hp).target?_ne h hattributed hmem
  · intro id hid
    rcases hact.announced_iff.mp hid with hid | hpublishes
    · exact Nat.lt_of_lt_of_le (h.announced_lt id hid) hnext
    · obtain ⟨call, setup, u, fate, later, -, hpending, rfl, -, -⟩ := hpublishes
      have hsetup := mem_setups hledger.distinct (setupOf?_of_call? hpending)
      obtain ⟨e, he, hid, -⟩ :=
        hledger.entry_of_slot (List.mem_append_left _ (List.mem_map_of_mem hsetup))
      rw [show setup.id = e.id from hid.symm]
      exact Nat.lt_of_lt_of_le (hledger.ids_lt e.key (List.mem_map_of_mem he)) hnext

end Manager
end ProvisionWatch

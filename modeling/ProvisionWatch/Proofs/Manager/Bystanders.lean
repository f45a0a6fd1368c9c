import ProvisionWatch.Proofs.Manager.Acts

/-!
# What a step leaves alone

Calls and workers keep to what is their own.  A pending call is moved by no step
but its own, it alone asks for what it needs and it alone returns, and no step
takes an entry of the registry back from being told to stop.

Main results:

- Theorem `Act.call?_of_ne`: nobody but the call itself moves a call.
- Theorem `Act.call?_of_returned`: nobody but the call itself lets a call return.
- Theorem `Act.asks`: nobody asks but a call that fetches or sets up.
- Theorem `Act.entry`: entries stay as they are told, under numbers of their own.
-/

namespace ProvisionWatch

/-- Whether a pending call waits for what others do. -/
def PendingCall.waits : PendingCall → Bool
  | waiting _ _ _ | stopping _ => true
  | settingUp _ | reading _ => false

/-- A pending call apart from what has arrived for its setup. -/
def PendingCall.withoutInbox : PendingCall → PendingCall
  | settingUp setup => settingUp { setup with inbox := .empty }
  | p => p

theorem PendingCall.eq_of_withoutInbox {p q : PendingCall}
    (h : q.withoutInbox = p.withoutInbox) (hp : p.setup? = none) : q = p := by
  cases p with
  | settingUp => cases hp
  | waiting | stopping | reading =>
      cases q with
      | settingUp => cases h
      | waiting | stopping | reading => exact h

namespace Manager

variable {σ : Type} {policy : Policy} {sinks : SinkInterface σ}
variable {m : Manager σ} {label : Label} {call : Nat} {r : Stepped σ}

/-! ## Calls by number -/

theorem lookup_filter_ne {β : Type} (pairs : List (Nat × β)) {key other : Nat}
    (h : other ≠ key) : (pairs.filter fun c => c.1 != key).lookup other = pairs.lookup other := by
  induction pairs with
  | nil => rfl
  | cons c rest ih =>
      obtain ⟨k, b⟩ := c
      rw [List.filter_cons, List.lookup_cons]
      split
      · rw [List.lookup_cons, ih]
      · rename_i hk
        have hother : (other == k) = false := by
          rw [show k = key by simpa using hk]
          simpa using h
        rw [hother]
        exact ih

@[simp]
theorem call?_dropCall (m : Manager σ) (call : Nat) : (m.dropCall call).call? call = none := by
  rw [call?, List.lookup_eq_none_iff]
  intro c hc
  have hne : c.1 ≠ call := by simpa using (List.mem_filter.mp hc).2
  simpa using Ne.symm hne

theorem call?_dropCall_of_ne (m : Manager σ) {call other : Nat} (h : other ≠ call) :
    (m.dropCall call).call? other = m.call? other :=
  lookup_filter_ne m.calls h

@[simp]
theorem call?_keepCall (m : Manager σ) (call : Nat) (p : PendingCall) :
    (m.keepCall call p).call? call = some p := by
  have hgone : (m.calls.filter fun c => c.1 != call).lookup call = none :=
    m.call?_dropCall call
  simp [call?, keepCall, List.lookup_append, hgone]

theorem call?_keepCall_of_ne (m : Manager σ) {call other : Nat} (p : PendingCall)
    (h : other ≠ call) : (m.keepCall call p).call? other = m.call? other := by
  have hother : (other == call) = false := by simpa using h
  simp [call?, keepCall, List.lookup_append, lookup_filter_ne m.calls h, List.lookup_cons, hother]

/-! ## Calls of others -/

/-- A call is moved by nobody but itself; all that others do is let inputs arrive for its setup. -/
theorem Act.call?_of_ne (hm : m.Distinct) (h : Act policy sinks m label r)
    (hne : label.call? ≠ some call) :
    (r.1.call? call).map PendingCall.withoutInbox =
      (m.call? call).map PendingCall.withoutInbox := by
  have hother : ∀ {other : Nat}, label.call? = some other → call ≠ other := by
    rintro other hown rfl
    exact hne hown
  cases h with
  | returns returns =>
      exact congrArg _ (m.call?_dropCall_of_ne (hother returns.call?))
  | waits looks found unannounced =>
      exact congrArg _ (m.call?_keepCall_of_ne _ (hother looks.call?))
  | begins looks free room =>
      exact congrArg _ (m.call?_keepCall_of_ne _ (hother looks.call?))
  | fails pending fails =>
      exact congrArg _ (m.call?_dropCall_of_ne (hother fails.call?))
  | advances pending advances =>
      exact congrArg _ (m.call?_keepCall_of_ne _ (hother advances.call?))
  | opens pending listing session =>
      exact congrArg _ (m.call?_dropCall_of_ne (hother rfl))
  | @abandons _ p pending =>
      cases p <;> exact congrArg _ (m.call?_dropCall_of_ne (hother rfl))
  | stops stops fresh =>
      exact congrArg _ (m.call?_keepCall_of_ne _ (hother (stops_call? stops)))
  | reads fresh sound allowed =>
      exact congrArg _ (m.call?_keepCall_of_ne _ (hother rfl))
  | @precedes target input other setup found =>
      by_cases heq : call = other
      · subst heq
        rw [call?_keepCall, call?_of_setup? hm found]
        rfl
      · exact congrArg _ (m.call?_keepCall_of_ne _ heq)
  | reaches | ends | turns | setClock | bind => rfl

@[simp]
theorem isAside_perform (sink : Nat) (target : Target) (world : σ) (e : Effect) :
    (perform sinks sink target world e).2.isAside = false := by
  unfold perform
  split
  · split <;> rfl
  · rfl
  · rfl
  · rfl

/-- What holds of each effect that takes place holds of all that take place in order. -/
theorem forall_mem_performAll {motive : Occurrence → Prop} {sink : Nat} {target : Target}
    (h : ∀ world e, motive (perform sinks sink target world e).2) (world : σ)
    (effects : List Effect) : ∀ o ∈ (performAll sinks sink target world effects).2, motive o := by
  induction effects generalizing world with
  | nil => simp [performAll]
  | cons e rest ih =>
      intro o ho
      rcases List.mem_cons.mp ho with rfl | ho
      · exact h world e
      · exact ih _ o ho

/-- Effects of a session are no questions and no answers. -/
theorem isAside_performAll (sink : Nat) (target : Target) (world : σ) (effects : List Effect) :
    ∀ o ∈ (performAll sinks sink target world effects).2, o.isAside = false :=
  forall_mem_performAll (isAside_perform sink target) world effects

/-- What a worker says last is no answer either. -/
theorem Ends.isAside {w : Worker} {ending : Ending} {said : List Occurrence}
    (h : Ends policy sinks m w ending said) : ∀ o ∈ said, o.isAside = false := by
  cases h with
  | finished | brokeDown => simp
  | turned => exact isAside_performAll _ _ _ _

/-- Where nobody asks or returns, no question and no answer is found. -/
theorem not_mem_of_isAside {said : List Occurrence} (hsaid : ∀ o ∈ said, o.isAside = false)
    {o : Occurrence} (ho : o.isAside = true) : o ∉ said := by
  intro hmem
  rw [hsaid o hmem] at ho
  cases ho

/-- A call returns by itself. -/
theorem Act.call?_of_returned (h : Act policy sinks m label r) {result : CallResult}
    (hreturned : .returned call result ∈ r.2) : label.call? = some call := by
  cases h with
  | returns returns =>
      obtain ⟨rfl, -⟩ : call = _ ∧ result = _ := by simpa using hreturned
      exact returns.call?
  | fails pending fails =>
      obtain ⟨rfl, -⟩ : call = _ ∧ result = _ := by
        simpa using hreturned
      exact fails.call?
  | opens pending listing session =>
      rcases List.mem_append.mp hreturned with hsaid | hlast
      · exact absurd hsaid (not_mem_of_isAside (isAside_performAll _ _ _ _) rfl)
      · obtain ⟨rfl, -⟩ : call = _ ∧ result = _ := by simpa using hlast
        rfl
  | ends world found ends =>
      rcases List.mem_append.mp hreturned with hsaid | hlast
      · exact absurd hsaid (not_mem_of_isAside ends.isAside rfl)
      · simp at hlast
  | turns world found running ticks next going =>
      exact absurd hreturned (not_mem_of_isAside (isAside_performAll _ _ _ _) rfl)
  | begins | advances | reads => simp [advance] at hreturned
  | waits | abandons | stops | reaches | precedes | setClock | bind => cases hreturned

/-- Who asks the collaborators, and for what. -/
inductive Asks (policy : Policy) (m : Manager σ) : Label → Question → Prop where
  | looks {label : Label} {call : Nat} {request : SubscribeRequest} {sink : Nat}
      (looks : Looks policy m label call request sink) :
      Asks policy m label (.fetch request.target)
  | advances {label : Label} {call : Nat} {setup : Setup} {stage : Stage} {question : Question}
      (pending : m.call? call = some (.settingUp setup))
      (advances : Advances call setup label stage question) : Asks policy m label question
  | reads {call : Nat} {target : Target} (sound : target.check = none)
      (allowed : policy.allowList.authorize target.ns = none) :
      Asks policy m (.readState call target) (.fetch target)

/-- Nobody else asks anything. -/
theorem Act.asks (h : Act policy sinks m label r) {question : Question}
    (hasked : .asked question ∈ r.2) : Asks policy m label question := by
  cases h with
  | @begins _ call request sink quota looks free room =>
      obtain rfl : question = .fetch request.target := by simpa using hasked
      exact .looks looks
  | @advances _ call setup stage asked pending advances =>
      obtain rfl : question = asked := by simpa [advance] using hasked
      exact .advances pending advances
  | @reads call target fresh sound allowed =>
      obtain rfl : question = .fetch target := by simpa using hasked
      exact .reads sound allowed
  | opens =>
      rcases List.mem_append.mp hasked with hasked | hasked
      · exact absurd hasked (not_mem_of_isAside (isAside_performAll _ _ _ _) rfl)
      · simp at hasked
  | ends world found ends =>
      rcases List.mem_append.mp hasked with hasked | hasked
      · exact absurd hasked (not_mem_of_isAside ends.isAside rfl)
      · simp at hasked
  | turns => exact absurd hasked (not_mem_of_isAside (isAside_performAll _ _ _ _) rfl)
  | returns | fails => simp at hasked
  | waits | abandons | stops | reaches | precedes | setClock | bind => cases hasked

/-- A call that sets nothing up stays as it is until it moves itself. -/
theorem Act.stays (hm : m.Distinct) (h : Act policy sinks m label r) {p : PendingCall}
    (hp : m.call? call = some p) (hsetup : p.setup? = none) (hne : label.call? ≠ some call) :
    r.1.call? call = some p ∧ ∀ result, .returned call result ∉ r.2 := by
  refine ⟨?_, fun result hreturned => hne (h.call?_of_returned hreturned)⟩
  have hsame := h.call?_of_ne hm hne
  rw [hp, Option.map_some] at hsame
  obtain ⟨q, hq, heq⟩ := Option.map_eq_some_iff.mp hsame
  rw [hq, PendingCall.eq_of_withoutInbox heq hsetup]

/-- All that a call can do that waits for others is to look again, or to be given up. -/
theorem step_of_waits {p : PendingCall} (hp : m.call? call = some p) (hwaits : p.waits = true)
    (hown : label.call? = some call) (hstep : m.step policy sinks label = some r) :
    label = .abandon call ∨ label = .resume call ∧ m.resume call p = some r := by
  cases label with
  | subscribe | unsubscribe | shutdown | readState =>
      obtain rfl := Option.some.inj hown
      simp [step, ifFresh, hp] at hstep
  | fetched | watched | eventsWatched | listed =>
      obtain rfl := Option.some.inj hown
      cases p with
      | settingUp | reading => cases hwaits
      | waiting | stopping =>
          simp [step, hp, takeFetched, takeWatched, takeEventsWatched, takeListed] at hstep
  | resume =>
      obtain rfl := Option.some.inj hown
      exact .inr ⟨rfl, by simpa [step, hp] using hstep⟩
  | abandon =>
      obtain rfl := Option.some.inj hown
      exact .inl rfl
  | arrive | work | setClock | bind => cases hown

/-- The registry keeps its entries, told to stop or not, and enters none but under the next
number. -/
theorem Act.entry (h : Act policy sinks m label r) :
    m.nextId ≤ r.1.nextId ∧
      ∀ e ∈ r.1.registry, e.id = m.nextId ∧ m.nextId < r.1.nextId ∨
        ∃ f ∈ m.registry, f.id = e.id ∧ (f.cancelled = true → e.cancelled = true) := by
  have hkept : ∀ {registry : List Entry}, (∀ e ∈ registry, e ∈ m.registry) →
      ∀ e ∈ registry, e.id = m.nextId ∧ m.nextId < r.1.nextId ∨
        ∃ f ∈ m.registry, f.id = e.id ∧ (f.cancelled = true → e.cancelled = true) :=
    fun hsub e he => .inr ⟨e, hsub e he, rfl, id⟩
  cases h with
  | begins looks free room =>
      refine ⟨Nat.le_succ _, fun e he => ?_⟩
      rcases List.mem_append.mp he with he | he
      · exact hkept (fun _ => id) e he
      · exact .inl ⟨by rw [List.mem_singleton.mp he], Nat.lt_succ_self _⟩
  | fails | ends =>
      exact ⟨Nat.le_refl _, hkept fun _ => List.mem_of_mem_filter⟩
  | @abandons _ p pending =>
      cases p with
      | settingUp => exact ⟨Nat.le_refl _, hkept fun _ => List.mem_of_mem_filter⟩
      | waiting | stopping | reading => exact ⟨Nat.le_refl _, hkept fun _ => id⟩
  | @stops _ _ test stops fresh =>
      refine ⟨Nat.le_refl _, fun e he => .inr ?_⟩
      obtain ⟨f, hf, rfl⟩ := List.mem_map.mp he
      refine ⟨f, hf, ?_, fun hcancelled => ?_⟩
      · split <;> rfl
      · split
        · rfl
        · exact hcancelled
  | returns | waits | advances | opens | reads | reaches | precedes | turns | setClock | bind =>
      exact ⟨Nat.le_refl _, hkept fun _ => id⟩

end Manager
end ProvisionWatch

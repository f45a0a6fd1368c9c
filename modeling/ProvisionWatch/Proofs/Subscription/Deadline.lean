import ProvisionWatch.Proofs.Session.Endings
import ProvisionWatch.Proofs.Subscription.Cutoff
import ProvisionWatch.Proofs.Time.Order

/-!
# The deadline and the warning before it

The deadline of a subscription stands from its start on, and so does the time of the
warning.  Where a length reaches beyond what instants there are, the deadline is the last
of them and the warning is due at once.  All that is remembered of the ticks is whether
one of them gave the warning, so it is given once, however the clock moves; that the
deadline has come is said by every tick that comes then.

Main results:

- Theorems `add?_toSpan` and `sub?_toSpan`: it makes no difference that a duration is cut
  to the longest span.
- Theorem `timeLimit_perform`: what a task does to the time limit.
- Theorem `due_of_ticks`: what each tick of a run says.
- Theorem `ticks_keep_deadline`: all this from the start of a subscription on.
-/

namespace ProvisionWatch

/-! ## Lengths that are cut -/

namespace Instant

theorem of?_of_late {second : Int} (h : lastSecond < second) (nano : Nat) :
    of? second nano = none := by
  unfold of?
  rw [dif_neg]
  omega

theorem carry_of_late {second : Int} (h : lastSecond + 1 < second) (nano : Int) :
    carry second nano = none := by
  unfold carry
  split
  · exact of?_of_late (by omega) _
  · split
    · exact of?_of_late (by omega) _
    · exact of?_of_late (by omega) _

/-- From wherever, the longest span reaches beyond the last instant. -/
theorem add?_of_longest (t : Instant) {s : Span} (h : Span.longest.nanos ≤ s.nanos) :
    t.add? s = none := by
  have hlongest : Span.longest.nanos = 9223372036854775807000000 := rfl
  have hseconds : lastSecond + 1 - t.second < s.wholeSeconds := by
    have hfirst := t.first_le
    rw [Span.wholeSeconds, Int.tdiv_eq_ediv_of_nonneg (by omega)]
    rw [firstSecond] at hfirst
    rw [lastSecond]
    omega
  have hpositive : 0 < s.wholeSeconds := by
    have hlast := t.le_last
    omega
  unfold add?
  dsimp only
  split
  · rw [if_pos (.inl hpositive)]
    exact carry_of_late (by omega) _
  · exact carry_of_late (by omega) _

/-- From wherever, the longest span reaches back beyond the first instant. -/
theorem sub?_of_longest (t : Instant) {s : Span} (h : Span.longest.nanos ≤ s.nanos) :
    t.sub? s = none := by
  have hlongest : Span.longest.nanos = 9223372036854775807000000 := rfl
  have hfirst : earliest.nanos = -8334601228800000000000 := rfl
  have hlast : t.nanos < 8210266876801000000000 := by
    have hsecond := t.le_last
    have hnano := t.nano_lt
    rw [lastSecond] at hsecond
    rw [nanos]
    omega
  rw [← Option.not_isSome_iff_eq_none, sub?_isSome_iff t (by omega)]
  omega

/-- A duration that is cut to the longest span reaches beyond the last instant all the same. -/
theorem add?_toSpan (t : Instant) (d : Duration) : t.add? d.toSpan = t.add? ⟨d.nanos⟩ := by
  unfold Duration.toSpan
  split
  · rfl
  · rename_i hlong
    rw [t.add?_of_longest (Int.le_refl _), t.add?_of_longest (by show _ ≤ (d.nanos : Int); omega)]

theorem sub?_toSpan (t : Instant) (d : Duration) : t.sub? d.toSpan = t.sub? ⟨d.nanos⟩ := by
  unfold Duration.toSpan
  split
  · rfl
  · rename_i hlong
    rw [t.sub?_of_longest (Int.le_refl _), t.sub?_of_longest (by show _ ≤ (d.nanos : Int); omega)]

end Instant

/-! ## What a tick has to say -/

/-- What a subscription keeps to tell when its time is over: its deadline, when the warning is due,
and whether it was given. -/
structure TimeLimit where
  deadline : Instant
  warningTime : Instant
  warned : Bool

namespace TickOutcome

/-- The deadline has come. -/
def isExpired : TickOutcome → Bool
  | expired _ => true
  | carryOn | warning _ => false

/-- The deadline is near. -/
def isWarning : TickOutcome → Bool
  | warning _ => true
  | carryOn | expired _ => false

/-- What a tick says is due at its reading of the clock.  From the deadline on it says that the time
is over, in a last warning.  Before, but from the time of the warning on, it says once that the end
is near, and there may be more to say. -/
structure Due (limit : TimeLimit) (now : Instant) (outcome : TickOutcome) : Prop where
  expired : outcome.isExpired = true ↔ limit.deadline ≤ now
  warning : outcome.isWarning = true ↔
    now < limit.deadline ∧ limit.warningTime ≤ now ∧ limit.warned = false
  carryOn : outcome = carryOn ↔
    now < limit.deadline ∧ (now < limit.warningTime ∨ limit.warned = true)
  last : ∀ u, outcome = .expired u → u.terminal = true ∧ u.severity = .warning
  goesOn : ∀ u, outcome = .warning u → u.terminal = false

end TickOutcome

/-- The time limit after a tick has said something, if it has. -/
def TimeLimit.after (limit : TimeLimit) (answer : Option TickOutcome) : TimeLimit :=
  { limit with warned := limit.warned || answer.any TickOutcome.isWarning }

@[simp]
theorem TimeLimit.after_none (limit : TimeLimit) : limit.after none = limit := by
  simp [after]

namespace Subscription

/-- The time limit of a subscription. -/
def timeLimit (s : Subscription) : TimeLimit :=
  { deadline := s.deadline, warningTime := s.warningTime, warned := s.warned }

/-- The time limit alone decides what is said of the deadline. -/
theorem checkDeadline_due (s : Subscription) (now : Instant) :
    (s.checkDeadline now).2.Due s.timeLimit now := by
  unfold checkDeadline
  by_cases hlate : s.deadline ≤ now
  · rw [if_pos hlate]
    refine ⟨?_, ?_, ?_, ?_, ?_⟩
    · simp [TickOutcome.isExpired, timeLimit, hlate]
    · simp [TickOutcome.isWarning, timeLimit, ← not_le, hlate]
    · simp [timeLimit, ← not_le, hlate]
    · rintro u ⟨rfl⟩
      exact ⟨rfl, s.notice_severity _ _ _ _⟩
    · rintro u ⟨⟩
  · rw [if_neg hlate]
    by_cases hwarn : s.warned = false ∧ s.warningTime ≤ now
    · rw [if_pos (by simpa using hwarn)]
      refine ⟨?_, ?_, ?_, ?_, ?_⟩
      · simp [TickOutcome.isExpired, timeLimit, hlate]
      · simp [TickOutcome.isWarning, timeLimit, ← not_le, hlate, hwarn]
      · simp [timeLimit, ← not_le, hwarn]
      · rintro u ⟨⟩
      · rintro u ⟨rfl⟩
        exact s.notice_terminal _ _ _ _
    · rw [if_neg (by simpa using hwarn)]
      refine ⟨?_, ?_, ?_, ?_, ?_⟩
      · simp [TickOutcome.isExpired, timeLimit, hlate]
      · simp only [TickOutcome.isWarning, timeLimit, Bool.false_eq_true, false_iff]
        exact fun h => hwarn ⟨h.2.2, h.2.1⟩
      · simp only [timeLimit, ← not_le, hlate, not_false_eq_true, true_and, true_iff]
        cases hwarned : s.warned with
        | true => exact .inr rfl
        | false => exact .inl fun hnear => hwarn ⟨hwarned, hnear⟩
      · rintro u ⟨⟩
      · rintro u ⟨⟩

/-- A warning is remembered, and nothing else moves. -/
@[simp]
theorem timeLimit_checkDeadline (s : Subscription) (now : Instant) :
    (s.checkDeadline now).1.timeLimit = s.timeLimit.after (s.checkDeadline now).2 := by
  unfold checkDeadline
  split
  · simp [TimeLimit.after, TickOutcome.isWarning]
  · split
    · simp [TimeLimit.after, TickOutcome.isWarning, timeLimit, warningTime]
    · simp [TimeLimit.after, TickOutcome.isWarning]

/-! ## Answers of tasks -/

/-- A task is a tick. -/
def Task.isTick : Task → Bool
  | tick => true
  | seed _ _ | change _ | event _ | replay _ | deliver _ => false

/-- What a task answers at a reading of the clock, if it is a tick that can prune the window. -/
def answer? (s : Subscription) (now : Instant) : Task → Option TickOutcome
  | .tick => (s.tick now).2.toOption.map Ticked.outcome
  | .seed _ _ | .change _ | .event _ | .replay _ | .deliver _ => none

theorem answer?_due {s : Subscription} {now : Instant} {task : Task} {outcome : TickOutcome}
    (h : s.answer? now task = some outcome) : outcome.Due s.timeLimit now := by
  cases task with
  | tick =>
      rcases hprune : s.scope.prune now with ⟨scope, result⟩
      cases result with
      | error fault =>
          rw [answer?, tick_of_fault hprune] at h
          cases h
      | ok =>
          rw [answer?, tick_eq hprune] at h
          obtain rfl := Option.some.inj h
          exact (s.lookedAt scope now).checkDeadline_due now
  | seed | change | event | replay | deliver => cases h

@[simp]
theorem timeLimit_applyEvent (s : Subscription) (e : Event) (now : Instant) :
    (s.applyEvent e now).1.timeLimit = s.timeLimit := by
  unfold applyEvent
  split
  · cases s.evaluateEvent e now <;> rfl
  · rfl

@[simp]
theorem timeLimit_applyChange (s : Subscription) (change : Change) (now : Instant) :
    (s.applyChange change now).1.timeLimit = s.timeLimit := by
  unfold applyChange
  split <;> rfl

@[simp]
theorem timeLimit_replayEvent (s : Subscription) (e : Event) (now : Instant) :
    (s.replayEvent e now).1.timeLimit = s.timeLimit := by
  unfold replayEvent
  cases s.evaluateEvent e now <;> rfl

/-- No task moves the deadline or the time of the warning; a tick that gives the warning is
remembered. -/
@[simp]
theorem timeLimit_perform (s : Subscription) (now : Instant) (task : Task) :
    (s.perform now task).1.timeLimit = s.timeLimit.after (s.answer? now task) := by
  cases task with
  | seed listed limit =>
      rcases hseed : s.seed listed limit now with ⟨seeded, result⟩
      obtain ⟨scope, -, rfl⟩ := seed_eq hseed
      rw [perform, hseed, answer?, TimeLimit.after_none]
      rfl
  | change change =>
      rw [perform, answer?, TimeLimit.after_none]
      exact s.timeLimit_applyChange change now
  | event e =>
      rw [perform, answer?, TimeLimit.after_none]
      exact s.timeLimit_applyEvent e now
  | replay e =>
      rw [perform, answer?, TimeLimit.after_none]
      exact s.timeLimit_replayEvent e now
  | tick =>
      rcases hprune : s.scope.prune now with ⟨scope, result⟩
      cases result with
      | error fault =>
          rw [perform, answer?, tick_of_fault hprune]
          exact (TimeLimit.after_none _).symm
      | ok =>
          rw [perform, answer?, tick_eq hprune]
          exact (s.lookedAt scope now).timeLimit_checkDeadline now
  | deliver u =>
      rw [perform, deliver_eq, answer?, TimeLimit.after_none]
      rfl

/-! ## Whole runs -/

/-- What the ticks among tasks that are done in order say, with their readings of the clock. -/
def ticks (s : Subscription) : List (Instant × Task) → List (Instant × TickOutcome)
  | [] => []
  | (now, task) :: rest =>
      ((s.answer? now task).map fun outcome => (now, outcome)).toList ++
        (s.perform now task).1.ticks rest

/-- Whether the warning is given among what ticks say. -/
def warnedAmong (answers : List (Instant × TickOutcome)) : Bool :=
  answers.any fun answer => answer.2.isWarning

@[simp]
theorem warnedAmong_append (answers later : List (Instant × TickOutcome)) :
    warnedAmong (answers ++ later) = (warnedAmong answers || warnedAmong later) :=
  List.any_append

theorem timeLimit_performAll (s : Subscription) (done : List (Instant × Task)) :
    (s.performAll done).timeLimit =
      { s.timeLimit with warned := s.timeLimit.warned || warnedAmong (s.ticks done) } := by
  induction done generalizing s with
  | nil => simp [performAll, ticks, warnedAmong]
  | cons timed rest ih =>
      obtain ⟨now, task⟩ := timed
      have hrest : (s.performAll ((now, task) :: rest)).timeLimit = _ := ih (s.perform now task).1
      rw [hrest, timeLimit_perform, ticks, warnedAmong_append, ← Bool.or_assoc]
      cases s.answer? now task <;> simp [TimeLimit.after, warnedAmong]

/-- Each tick of a run says what is due by the time limit as the earlier ticks have left it. -/
theorem due_of_ticks {s : Subscription} {done : List (Instant × Task)}
    {earlier later : List (Instant × TickOutcome)} {now : Instant} {outcome : TickOutcome}
    (h : s.ticks done = earlier ++ (now, outcome) :: later) :
    outcome.Due { s.timeLimit with warned := s.timeLimit.warned || warnedAmong earlier } now := by
  -- The first task answers nothing, or gives the tick in question, or is one of the earlier ticks;
  -- the time limit carries over what it said.
  induction done generalizing s earlier with
  | nil => simp [ticks] at h
  | cons timed rest ih =>
      obtain ⟨reading, task⟩ := timed
      rw [ticks] at h
      have hlimit := s.timeLimit_perform reading task
      cases hanswer : s.answer? reading task with
      | none =>
          rw [hanswer] at h hlimit
          have hdue := ih h
          simpa [hlimit, TimeLimit.after] using hdue
      | some first =>
          rw [hanswer] at h hlimit
          cases earlier with
          | nil =>
              obtain ⟨hfirst, -⟩ := List.cons.inj h
              obtain ⟨rfl, rfl⟩ := Prod.mk.inj hfirst
              simpa [warnedAmong] using answer?_due hanswer
          | cons answer earlier =>
              obtain ⟨hfirst, hrest⟩ := List.cons.inj h
              have hdue := ih hrest
              simpa [hlimit, TimeLimit.after, warnedAmong, ← hfirst, Bool.or_assoc] using hdue

/-- The warning is given once at most. -/
theorem countP_warning_le (s : Subscription) (done : List (Instant × Task)) :
    (s.ticks done).countP (fun answer => answer.2.isWarning) + s.timeLimit.warned.toNat ≤ 1 := by
  induction done generalizing s with
  | nil => simpa [ticks] using Bool.toNat_le _
  | cons timed rest ih =>
      obtain ⟨now, task⟩ := timed
      have hrest := ih (s.perform now task).1
      rw [timeLimit_perform] at hrest
      rw [ticks, List.countP_append]
      cases hanswer : s.answer? now task with
      | none => simpa [hanswer, TimeLimit.after] using hrest
      | some outcome =>
          have hdue := answer?_due hanswer
          rw [hanswer] at hrest
          cases hwarning : outcome.isWarning with
          | false => simpa [hwarning, TimeLimit.after] using hrest
          | true =>
              -- It was not given before, so it takes the place of the one that is left.
              have hfirst := (hdue.warning.mp hwarning).2.2
              simpa [hwarning, TimeLimit.after, hfirst, Nat.add_comm] using hrest

/-- A tick that can prune the window answers, and nothing else does. -/
theorem isSome_answer? {s : Subscription} {now : Instant} {task : Task}
    (h : task.isTick = true → (now.sub? s.scope.window.retention.age).isSome = true) :
    (s.answer? now task).isSome = task.isTick := by
  cases task with
  | tick =>
      rcases hprune : s.scope.prune now with ⟨scope, result⟩
      have hok := Scope.prune_ok (h rfl)
      rw [hprune] at hok
      obtain rfl : result = .ok () := hok
      rw [answer?, tick_eq hprune]
      rfl
  | seed | change | event | replay | deliver => rfl

/-- Every tick answers at its reading, as long as each can prune the window. -/
theorem readings_ticks {s : Subscription} {done : List (Instant × Task)}
    (hdone : ∀ timed ∈ done, timed.2.isTick = true →
      (timed.1.sub? s.scope.window.retention.age).isSome = true) :
    (s.ticks done).map Prod.fst =
      (done.filter fun timed => timed.2.isTick).map Prod.fst := by
  induction done generalizing s with
  | nil => rfl
  | cons timed rest ih =>
      obtain ⟨now, task⟩ := timed
      have hanswers := isSome_answer? (hdone (now, task) List.mem_cons_self)
      have hretention := Scope.retention_of_cleared (s.cleared_perform now task)
      have hrest := ih (s := (s.perform now task).1) fun later hlater => by
        rw [hretention]
        exact hdone later (List.mem_cons_of_mem _ hlater)
      rw [ticks, List.map_append, hrest]
      cases hanswer : s.answer? now task with
      | none =>
          rw [hanswer] at hanswers
          rw [List.filter_cons_of_neg (by simp [← hanswers])]
          rfl
      | some outcome =>
          rw [hanswer] at hanswers
          rw [List.filter_cons_of_pos (by simp [← hanswers])]
          rfl

/-- The time limit of a subscription that starts follows from its lengths as they are set, also
where they are longer than any span. -/
@[simp]
theorem timeLimit_start (caller : String) (scope : Scope) (timing : Timing) (now : Instant) :
    (start caller scope timing now).timeLimit =
      { deadline := (now.add? ⟨timing.timeout.nanos⟩).getD .latest
        warningTime := (((now.add? ⟨timing.timeout.nanos⟩).getD .latest).sub?
          ⟨timing.warningLead.nanos⟩).getD .earliest
        warned := false } := by
  rw [← Instant.add?_toSpan, ← Instant.sub?_toSpan]
  rfl

/-- A subscription starts with whatever lengths, and tasks are done at whatever readings of the
clock, the ticks at such that the window can be pruned.  The deadline is the start and the timeout
after it, or the last instant if that is out of range, and no task moves it; the warning is due its
lead before that, or from the first instant on if that is out of range.  Every tick answers.  It
says that the deadline has come exactly from the deadline on, each time and in a terminal warning.
It gives the warning, which is not terminal, exactly before the deadline, from the time of the
warning on, and if no earlier tick gave it.  Otherwise it has nothing to say.  So the warning is
given once at most. -/
theorem ticks_keep_deadline (caller : String) (scope : Scope) (timing : Timing) (start : Instant)
    {done : List (Instant × Task)}
    (hdone : ∀ timed ∈ done, timed.2.isTick = true →
      (timed.1.sub? scope.window.retention.age).isSome = true) :
    let s := Subscription.start caller scope timing start
    let deadline := (start.add? ⟨timing.timeout.nanos⟩).getD .latest
    let warningTime := (deadline.sub? ⟨timing.warningLead.nanos⟩).getD .earliest
    (s.performAll done).deadline = deadline ∧
    (s.ticks done).map Prod.fst = (done.filter fun timed => timed.2.isTick).map Prod.fst ∧
    (∀ earlier now outcome later, s.ticks done = earlier ++ (now, outcome) :: later →
      outcome.Due ⟨deadline, warningTime, warnedAmong earlier⟩ now) ∧
    (s.ticks done).countP (fun answer => answer.2.isWarning) ≤ 1 := by
  intro s deadline warningTime
  have hlimit : s.timeLimit = ⟨deadline, warningTime, false⟩ :=
    timeLimit_start caller scope timing start
  refine ⟨?_, ?_, ?_, ?_⟩
  · have hend := s.timeLimit_performAll done
    rw [hlimit] at hend
    exact congrArg TimeLimit.deadline hend
  · exact readings_ticks hdone
  · intro earlier now outcome later hticks
    have hdue := due_of_ticks hticks
    rwa [hlimit, Bool.false_or] at hdue
  · have hcount := s.countP_warning_le done
    rwa [hlimit] at hcount

/-- With lengths as long as can be set the deadline is the last instant, and the warning is due at
once.  It is given at the first tick and not again, also not when the clock goes back from the
deadline. -/
theorem ticks_keep_deadline_of_longest_lengths :
    let longest : Duration := .ofSeconds 18446744073709551615
    let scope : Scope := .new ⟨"ns", "a"⟩ Rule.standard .standard
    let evidence : Event := ⟨⟨"ServiceSet", "a-x", some "ns"⟩, "ServiceInstalling", "", "Normal",
      none, none, none⟩
    let done : List (Instant × Task) :=
      [ (default, .tick), (default, .event evidence), (.latest, .tick), (default, .tick),
        (.latest, .tick) ]
    let s := Subscription.start "ann" scope ⟨longest, longest, longest⟩ default
    (s.performAll done).deadline = .latest ∧
      (s.ticks done).map Prod.fst = [default, .latest, default, .latest] ∧
      (s.ticks done).map (fun answer => answer.2.isWarning) = [true, false, false, false] ∧
      (s.ticks done).map (fun answer => answer.2.isExpired) = [false, true, false, true] ∧
      (s.ticks done).countP (fun answer => answer.2.isWarning) ≤ 1 := by
  intro longest scope evidence done s
  have hdone : ∀ timed ∈ done, timed.2.isTick = true →
      (timed.1.sub? scope.window.retention.age).isSome = true := by
    decide +kernel
  obtain ⟨hdeadline, hreadings, -, hcount⟩ :=
    ticks_keep_deadline "ann" scope ⟨longest, longest, longest⟩ default hdone
  have hlatest : ((default : Instant).add? ⟨longest.nanos⟩).getD .latest = .latest := by
    decide +kernel
  rw [hlatest] at hdeadline
  exact ⟨hdeadline, hreadings, by decide +kernel, by decide +kernel, hcount⟩

end Subscription
end ProvisionWatch

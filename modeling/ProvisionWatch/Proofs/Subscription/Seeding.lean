import Mathlib.Data.List.DropRight
import ProvisionWatch.Proofs.Event.Chronology
import ProvisionWatch.Proofs.Subscription.Cutoff
import ProvisionWatch.Proofs.Window.Survival

/-!
# What seeding retains

A subscription starts with the events that are listed then: the newest of them, so many at
most, are retained one after the other, and the window is pruned each time.  As the clock
stands still meanwhile, nothing that is dropped would have been kept in the end, so all
comes to one pruning.  What is answered is the last event in the window that is in scope and
has a rule.

Pruning fails where the retention age reaches below the first instant.  Then nothing is
seeded, unless there is nothing to be retained.

Main results:

- Theorem `Window.pruned_pruned_append`: pruning in between changes nothing.
- Theorem `observeAll_eq`: events that are retained at one reading are pruned once.
- Theorem `find?_reverse_eq_some_iff`: the last entry that passes a test.
- Theorem `seeding_law`: when seeding works, what it retains and what it answers.
- Theorem `seeding_fails_of_longest_retention`: with a retention as long as can be set
  no event can be seeded.
-/

namespace ProvisionWatch

/-! ## Pruning several times -/

namespace Window

/-- Of the last entries and what follows them the last ones are those of everything. -/
theorem lastOf_lastOf_append {α : Type} (n : Nat) (es es' : List α) :
    lastOf n (lastOf n es ++ es') = lastOf n (es ++ es') := by
  unfold lastOf
  rw [← List.drop_append_of_le_length (Nat.sub_le es.length n), List.drop_drop]
  congr 1
  simp only [List.length_drop, List.length_append]
  omega

/-- What is pruned before more events come is not kept then either. -/
theorem pruned_pruned_append (r : Retention) (cutoff : Instant) (es es' : List Event) :
    pruned r cutoff (pruned r cutoff es ++ es') = pruned r cutoff (es ++ es') := by
  have hfresh : (pruned r cutoff es).filter (isFresh cutoff) = pruned r cutoff es := by
    refine List.filter_eq_self.mpr fun e he => ?_
    exact (List.mem_filter.mp ((pruned_suffix r cutoff es).mem he)).2
  rw [pruned, List.filter_append, hfresh, pruned, lastOf_lastOf_append, ← List.filter_append]
  rfl

end Window

namespace Subscription

/-- Events that are retained at one reading of the clock are pruned once, together with the window
if it was pruned at that reading before. -/
theorem observeAll_eq {scope : Scope} {now cutoff : Instant}
    (hcutoff : now.sub? scope.window.retention.age = some cutoff)
    (hpruned : Window.pruned scope.window.retention cutoff scope.window.events =
      scope.window.events) (es : List Event) :
    observeAll scope now es =
      ({ scope with
          window :=
            { scope.window with
              events := Window.pruned scope.window.retention cutoff (scope.window.events ++ es) } },
        .ok ()) := by
  induction es generalizing scope with
  | nil => rw [observeAll, List.append_nil, hpruned]
  | cons e rest ih =>
      have hobserve : scope.observe e now =
          ({ scope with
              window :=
                { scope.window with
                  events := Window.pruned scope.window.retention cutoff
                    (scope.window.events ++ [e]) } }, .ok ()) := by
        simp only [Scope.observe, Window.push, Window.prune, hcutoff]
      have htwice := Window.pruned_pruned_append scope.window.retention cutoff
        (scope.window.events ++ [e]) []
      rw [List.append_nil, List.append_nil] at htwice
      rw [observeAll, hobserve]
      refine (ih (by exact hcutoff) (by exact htwice)).trans ?_
      simp only [Window.pruned_pruned_append, List.append_assoc, List.singleton_append]

end Subscription

/-! ## The last one that speaks up -/

/-- Searched from behind, a list gives the last entry that passes a test. -/
theorem find?_reverse_eq_some_iff {α : Type} {p : α → Bool} {l : List α} {x : α} :
    l.reverse.find? p = some x ↔
      ∃ before after, l = before ++ x :: after ∧ p x = true ∧ ∀ y ∈ after, p y = false := by
  rw [List.find?_eq_some_iff_append]
  constructor
  · rintro ⟨hx, front, back, hl, hfront⟩
    refine ⟨back.reverse, front.reverse, ?_, hx, fun y hy => ?_⟩
    · rw [← List.reverse_reverse l, hl]
      simp
    · simpa using hfront y (List.mem_reverse.mp hy)
  · rintro ⟨before, after, rfl, hx, hafter⟩
    refine ⟨hx, after.reverse, before.reverse, by simp, fun y hy => ?_⟩
    rw [hafter y (List.mem_reverse.mp hy)]
    rfl

namespace Scope

/-- An event is in scope, and there is a rule for its reason. -/
def Heeds (s : Scope) (e : Event) : Prop :=
  s.covers e = true ∧ ∃ rule ∈ s.rules, rule.reason = e.reason

instance (s : Scope) (e : Event) : Decidable (s.Heeds e) :=
  inferInstanceAs (Decidable (_ ∧ _))

theorem evaluate_isSome_iff {s : Scope} {e : Event} {now : Instant} :
    (s.evaluate e now).isSome = true ↔ s.Heeds e := by
  unfold evaluate Heeds
  split
  · rename_i hcovers
    simp [rule?, hcovers]
  · rename_i hcovers
    simp [hcovers]

/-- Only what is in scope says anything, so the scope need not be asked twice. -/
theorem find?_covered_eq (s : Scope) (now : Instant) :
    (s.covered.find? fun e => (s.evaluate e now).isSome) =
      s.window.events.reverse.find? fun e => (s.evaluate e now).isSome := by
  rw [covered, Window.newestFirst, List.find?_filter]
  congr 1
  funext e
  rw [Bool.eq_iff_iff, decide_eq_true_eq, and_iff_right_iff_imp, evaluate_isSome_iff]
  exact And.left

/-- The newest event that says something is the last one in the window that is heeded. -/
theorem find?_covered_eq_some_iff {s : Scope} {e : Event} {now : Instant} :
    (s.covered.find? fun e => (s.evaluate e now).isSome) = some e ↔
      ∃ before after, s.window.events = before ++ e :: after ∧ s.Heeds e ∧
        ∀ f ∈ after, ¬ s.Heeds f := by
  simp only [find?_covered_eq, find?_reverse_eq_some_iff, ← Bool.not_eq_true, evaluate_isSome_iff]

theorem find?_covered_eq_none_iff {s : Scope} {now : Instant} :
    (s.covered.find? fun e => (s.evaluate e now).isSome) = none ↔
      ∀ e ∈ s.window.events, ¬ s.Heeds e := by
  simp only [find?_covered_eq, List.find?_eq_none, List.mem_reverse, evaluate_isSome_iff]

end Scope

/-! ## Seeding -/

/-- What is kept of events that came in order and were pruned at one reading of the clock: of the
last so many of them those that are not too old, and of these the last ones again. -/
def Retention.kept (r : Retention) (now : Instant) (limit : Nat) (sorted : List Event) :
    List Event :=
  ((sorted.rtake limit).filter fun e => !r.outdates now e).rtake r.count

/-- What is too old is not kept. -/
theorem Retention.outdates_of_mem_kept {r : Retention} {now : Instant} {limit : Nat}
    {sorted : List Event} {e : Event} (he : e ∈ r.kept now limit sorted) :
    r.outdates now e = false := by
  have hyoung := (List.mem_filter.mp (List.mem_of_mem_drop he)).2
  simpa using hyoung

theorem Window.pruned_lastOf {r : Retention} {now cutoff : Instant}
    (hcutoff : now.sub? r.age = some cutoff) (limit : Nat) (sorted : List Event) :
    pruned r cutoff (lastOf limit sorted) = r.kept now limit sorted := by
  have hfresh : (fun e => !r.outdates now e) = isFresh cutoff := by
    funext e
    rw [Retention.outdates_of_cutoff (r := r) hcutoff, Bool.not_not]
  rw [Retention.kept, hfresh]
  rfl

namespace Subscription

/-- The subscription with these events in its window. -/
def retaining (s : Subscription) (events : List Event) : Subscription :=
  { s with scope := { s.scope with window := { s.scope.window with events := events } } }

/-- A subscription that has retained nothing yet keeps of the listed events what one pruning
leaves, and answers with the last of it that is heeded. -/
theorem seed_eq_retaining {s : Subscription} {now cutoff : Instant}
    (hfresh : s.scope.window.events = [])
    (hcutoff : now.sub? s.scope.window.retention.age = some cutoff) (listed : List Event)
    (limit : Nat) :
    let sorted := listed.mergeSort Event.noLater
    let seeded := s.retaining (s.scope.window.retention.kept now limit sorted)
    s.seed listed limit now =
      (seeded, .ok (seeded.scope.covered.find? fun e => (seeded.scope.evaluate e now).isSome)) := by
  intro sorted seeded
  have hpruned : Window.pruned s.scope.window.retention cutoff s.scope.window.events =
      s.scope.window.events := by
    rw [hfresh]
    exact List.drop_nil
  rw [seed, observeAll_eq hcutoff hpruned, hfresh, List.nil_append,
    Window.pruned_lastOf hcutoff]
  rfl

/-- Where there is nothing to be retained the subscription stays as it is, and no cutoff is
asked for. -/
theorem seed_of_nothing {s : Subscription} {now : Instant} {listed : List Event} {limit : Nat}
    (hnothing : limit = 0 ∨ listed = []) :
    s.seed listed limit now =
      (s, .ok (s.scope.covered.find? fun e => (s.scope.evaluate e now).isSome)) := by
  have hnewest : Window.lastOf limit (listed.mergeSort Event.noLater) = [] := by
    rw [Window.lastOf_eq_nil_iff]
    refine hnothing.imp id fun hlisted => ?_
    rw [hlisted, List.mergeSort_nil]
  rw [seed, hnewest]
  rfl

/-- So whenever events are seeded into an empty window, this is what is retained and answered. -/
theorem seed_of_fresh {s s' : Subscription} {now : Instant} {listed : List Event} {limit : Nat}
    {answer : Option Event} (hfresh : s.scope.window.events = [])
    (hseed : s.seed listed limit now = (s', .ok answer)) :
    s' = s.retaining (s.scope.window.retention.kept now limit (listed.mergeSort Event.noLater)) ∧
    answer = s'.scope.covered.find? fun e => (s'.scope.evaluate e now).isSome := by
  have hworks : (s.seed listed limit now).2.map (fun _ => ()) = .ok () := by
    rw [hseed]
    rfl
  rw [seed_ok_iff, ← or_assoc] at hworks
  rcases hworks with hnothing | hcutoff
  · rw [seed_of_nothing hnothing] at hseed
    obtain ⟨rfl, hanswer⟩ := Prod.mk.inj hseed
    have hkept : s.scope.window.retention.kept now limit (listed.mergeSort Event.noLater) = [] := by
      rcases hnothing with rfl | rfl <;> simp [Retention.kept]
    refine ⟨?_, (Except.ok.inj hanswer).symm⟩
    rw [hkept, ← hfresh]
    rfl
  · obtain ⟨cutoff, hcutoff⟩ := Option.isSome_iff_exists.mp hcutoff
    rw [seed_eq_retaining hfresh hcutoff] at hseed
    obtain ⟨rfl, hanswer⟩ := Prod.mk.inj hseed
    exact ⟨rfl, (Except.ok.inj hanswer).symm⟩

/-- Whatever is listed, whatever the limit, the retention and the rules are, and whenever a fresh
subscription is seeded: this works exactly if the cutoff can be told, or there is nothing to be
retained.  The last of the events in order of time, so many of them, are looked at then; those
of them that are not too old, and of these again the last ones, are retained in this order.
The answer is the last one retained that is in scope and has a rule, and there is none if no
such event is retained.  Listed events of different dates give the same in any order. -/
theorem seeding_law (caller : String) (target : Target) (rules : List Rule)
    (retention : Retention) (timing : Timing) (begun : Instant) (listed : List Event)
    (limit : Nat) (now : Instant) :
    let s := start caller (Scope.new target rules retention) timing begun
    ((∃ s' answer, s.seed listed limit now = (s', .ok answer)) ↔
      limit = 0 ∨ listed = [] ∨ (now.sub? retention.age).isSome = true) ∧
    (∃! sorted, Event.Chronological listed sorted) ∧
    (∀ sorted s' answer, Event.Chronological listed sorted →
      s.seed listed limit now = (s', .ok answer) →
      let kept := retention.kept now limit sorted
      s' = s.retaining kept ∧
      (∀ e, answer = some e ↔ ∃ before after, kept = before ++ e :: after ∧
        s.scope.Heeds e ∧ ∀ f ∈ after, ¬ s.scope.Heeds f) ∧
      (answer = none ↔ ∀ e ∈ kept, ¬ s.scope.Heeds e) ∧
      ∀ e, retention.outdates now e = true →
        e ∉ s'.scope.window.events ∧ answer ≠ some e) ∧
    ∀ other, other.Perm listed → (listed.map Event.timestamp).Nodup →
      s.seed other limit now = s.seed listed limit now := by
  intro s
  refine ⟨?_, ⟨_, Event.chronological_mergeSort listed, fun other hother =>
    hother.unique (Event.chronological_mergeSort listed)⟩, ?_, fun other hperm hdates => ?_⟩
  · have hworks := s.seed_ok_iff listed limit now
    refine Iff.trans ?_ hworks
    rcases hseed : s.seed listed limit now with ⟨s', answer | fault⟩
    · simp [Except.map]
    · simp [Except.map]
  · intro sorted s' answer hsorted hseed kept
    obtain rfl := hsorted.unique (Event.chronological_mergeSort listed)
    obtain ⟨hs', hanswer⟩ := seed_of_fresh (show s.scope.window.events = [] from rfl) hseed
    have hsome : ∀ e, answer = some e ↔ ∃ before after, kept = before ++ e :: after ∧
        s.scope.Heeds e ∧ ∀ f ∈ after, ¬ s.scope.Heeds f := by
      intro e
      rw [hanswer, Scope.find?_covered_eq_some_iff, hs']
      rfl
    have hnone : answer = none ↔ ∀ e ∈ kept, ¬ s.scope.Heeds e := by
      rw [hanswer, Scope.find?_covered_eq_none_iff, hs']
      rfl
    have hyoung : ∀ e, retention.outdates now e = true → e ∉ kept := by
      intro e hold he
      rw [Retention.outdates_of_mem_kept he] at hold
      cases hold
    refine ⟨hs', hsome, hnone, fun e hold => ⟨?_, fun heq => ?_⟩⟩
    · rw [hs']
      exact hyoung e hold
    · obtain ⟨before, after, hsplit, -⟩ := (hsome e).mp heq
      exact hyoung e hold (by simp [hsplit])
  · rw [seed, seed, Event.mergeSort_eq_of_perm hperm hdates]

/-- Four events are listed, and the last three of them are looked at: one is too old, and of the two
that happened at once only the one that was listed first has a rule. -/
theorem seeding_law_of_simultaneous_events :
    let at? (second : Option Instant) (name reason : String) : Event :=
      ⟨⟨"ServiceSet", name, some "ns"⟩, reason, "", "Normal", second, none, none⟩
    let early : Instant := ⟨5, 0, by decide, by decide, by decide⟩
    let late : Instant := ⟨15, 0, by decide, by decide, by decide⟩
    let now : Instant := ⟨20, 0, by decide, by decide, by decide⟩
    let ruled := at? (some late) "a-x" "ServiceInstalling"
    let unruled := at? (some late) "a-x" "Pulled"
    let outdated := at? (some early) "a-y" "ServiceInstalling"
    let undated := at? none "a-z" "ServiceInstalling"
    let s := start "ann" (Scope.new ⟨"ns", "a"⟩ Rule.standard ⟨2, .ofSeconds 10⟩)
      ⟨.ofSeconds 60, .ofSeconds 10, .ofSeconds 30⟩ default
    s.seed [ruled, outdated, unruled, undated] 3 now =
        (s.retaining [ruled, unruled], .ok (some ruled)) ∧
      s.seed [ruled, outdated] 3 now = s.seed [outdated, ruled] 3 now := by
  intro at? early late now ruled unruled outdated undated s
  obtain ⟨hworks, -, hseeded, -⟩ := seeding_law "ann" ⟨"ns", "a"⟩ Rule.standard
    ⟨2, .ofSeconds 10⟩ ⟨.ofSeconds 60, .ofSeconds 10, .ofSeconds 30⟩ default
    [ruled, outdated, unruled, undated] 3 now
  obtain ⟨-, -, -, hreordered⟩ := seeding_law "ann" ⟨"ns", "a"⟩ Rule.standard
    ⟨2, .ofSeconds 10⟩ ⟨.ofSeconds 60, .ofSeconds 10, .ofSeconds 30⟩ default
    [outdated, ruled] 3 now
  refine ⟨?_, hreordered [ruled, outdated] (by decide +kernel) (by decide +kernel)⟩
  have hsorted : Event.Chronological [ruled, outdated, unruled, undated]
      [undated, outdated, ruled, unruled] := by
    decide +kernel
  obtain ⟨s', answer, hseed⟩ := hworks.mpr (.inr (.inr (by decide +kernel)))
  obtain ⟨hs', hanswer, -⟩ := hseeded _ s' answer hsorted hseed
  have hkept : Retention.kept ⟨2, .ofSeconds 10⟩ now 3 [undated, outdated, ruled, unruled] =
      [ruled, unruled] := by
    decide +kernel
  rw [hkept] at hs' hanswer
  have hheeds : s.scope.Heeds ruled := by
    decide +kernel
  have hunheeded : ¬ s.scope.Heeds unruled := by
    decide +kernel
  rw [hseed, hs', (hanswer ruled).mpr ⟨[], [unruled], rfl, hheeds, by simpa using hunheeded⟩]

/-- With the longest retention age nothing is too old, and still the one event that is listed, in
scope and with a rule, cannot be seeded. -/
theorem seeding_fails_of_longest_retention :
    let object : ObjectRef := ⟨"ServiceSet", "a-x", some "ns"⟩
    let e : Event := ⟨object, "ServiceInstalling", "", "Normal", some default, none, none⟩
    let retention : Retention := ⟨50, .longest⟩
    let s := start "ann" (Scope.new ⟨"ns", "a"⟩ Rule.standard retention)
      ⟨.ofSeconds 60, .ofSeconds 10, .ofSeconds 30⟩ default
    Event.Chronological [e] [e] ∧ retention.kept default 20 [e] = [e] ∧ s.scope.Heeds e ∧
      (s.seed [e] 20 default).2 = .error .beforeFirstInstant := by
  intro object e retention s
  refine ⟨by decide +kernel, by decide +kernel, by decide +kernel, ?_⟩
  rw [seed, List.mergeSort_singleton]
  decide +kernel

end Subscription
end ProvisionWatch

import Mathlib.Data.List.Induction
import Mathlib.Data.List.Infix
import ProvisionWatch.Proofs.Subscription.Evidence
import ProvisionWatch.Proofs.Time.Order

/-!
# Which events survive in a window

A window is bounded by age and by number, and both bounds are applied at every
reading, so what it holds depends on everything that was done to it.  Still it can
be told from the arrivals and the readings alone: an event survives if it is not
too old now, and if there was room for it at every reading since it arrived, that
is, if fewer events than the window keeps had arrived after it and were not too
old at that reading.

This holds as long as the cutoffs never go back.  They follow the readings, except
where a reading lies in a leap second: it counts as the second behind the leap
second when one looks back from it, so a later reading may have an earlier cutoff.
An event that was dropped does not come back then.

Main results:

- Theorem `survivors_concat`: one more act prunes the survivors.
- Theorem `events_after_eq_survivors`: what a window holds after any acts whose
  cutoffs never go back.
- Theorem `events_after_law`: this law, where it holds for readings that never go
  back, and what is left of it for readings in any order.
- Theorem `events_after_ne_survivors_of_leap_second`: in a leap second the law
  fails.
-/

namespace ProvisionWatch

/-! ## Cutoffs -/

/-- From outside of a leap second, one gets to a place on the line of seconds by counting. -/
theorem Instant.nanos_of_carry {second nano : Int} (hlow : -1000000000 < nano)
    (hhigh : nano < 2000000000) {t : Instant} (h : carry second nano = some t) :
    t.second * 1000000000 + t.nano = second * 1000000000 + nano ∧ t.nano < 1000000000 := by
  have hof {s : Int} {n : Nat} (hof : of? s n = some t) : t.second = s ∧ t.nano = n := by
    unfold of? at hof
    split at hof
    · cases hof
      exact ⟨rfl, rfl⟩
    · cases hof
  unfold carry at h
  split at h
  · obtain ⟨hs, hn⟩ := hof h
    omega
  · split at h
    · obtain ⟨hs, hn⟩ := hof h
      omega
    · obtain ⟨hs, hn⟩ := hof h
      omega

/-- Outside of leap seconds, who reads later also looks back to later. -/
theorem Instant.sub?_mono {t t' c c' : Instant} {age : Span} (hle : t ≤ t')
    (ht : t.inLeapSecond = false) (ht' : t'.inLeapSecond = false) (hc : t.sub? age = some c)
    (hc' : t'.sub? age = some c') : c ≤ c' := by
  have hplain : t.nano < 1000000000 := by simpa [inLeapSecond] using ht
  have hplain' : t'.nano < 1000000000 := by simpa [inLeapSecond] using ht'
  have hsmall := Int.tmod_lt_of_pos age.opposite.nanos (show (0 : Int) < 1000000000 by decide)
  have hlarge := Int.lt_tmod_of_pos age.opposite.nanos (show (0 : Int) < 1000000000 by decide)
  simp only [sub?, add?, ht, ht', Bool.false_eq_true, if_false, Span.nanosBesideSeconds] at hc hc'
  obtain ⟨hline, hnano⟩ := nanos_of_carry (by omega) (by omega) hc
  obtain ⟨hline', hnano'⟩ := nanos_of_carry (by omega) (by omega) hc'
  rw [le_def] at hle ⊢
  omega

/-- The cutoff of a reading. -/
def Retention.cutoff? (r : Retention) (now : Instant) : Option Instant :=
  now.sub? r.age

theorem Retention.outdates_of_cutoff {r : Retention} {now cutoff : Instant}
    (h : r.cutoff? now = some cutoff) (e : Event) :
    r.outdates now e = !Window.isFresh cutoff e := by
  rw [outdates, show now.sub? r.age = some cutoff from h, Option.any_some]

/-- An earlier cutoff spares what a later one spares. -/
theorem Window.isFresh_of_le {c d : Instant} (h : c ≤ d) {e : Event}
    (hfresh : isFresh d e = true) : isFresh c e = true := by
  unfold isFresh at *
  cases ht : e.timestamp with
  | none => rfl
  | some t =>
      simp only [ht, decide_eq_true_eq] at hfresh ⊢
      exact h.trans hfresh

namespace Window

/-! ## Acts -/

/-- What is done to a window, and at which reading of the clock. -/
inductive Act where
  | push (e : Event) (now : Instant)
  | prune (now : Instant)
deriving DecidableEq

/-- The reading at which something is done. -/
def Act.now : Act → Instant
  | push _ now => now
  | prune now => now

/-- The event that arrives, if one does. -/
def Act.arrival? : Act → Option Event
  | push e _ => some e
  | prune _ => none

/-- Do something to a window. -/
def act (w : Window) : Act → Window × Except RangeFault Unit
  | .push e now => w.push e now
  | .prune now => w.prune now

/-- The window after everything that was done to an empty one. -/
def after (r : Retention) (acts : List Act) : Window :=
  acts.foldl (fun w a => (w.act a).1) (empty r)

/-- The events that arrived, the first in front. -/
def arrivals (acts : List Act) : List Event :=
  acts.filterMap Act.arrival?

@[simp]
theorem arrivals_append (acts acts' : List Act) :
    arrivals (acts ++ acts') = arrivals acts ++ arrivals acts' :=
  List.filterMap_append

@[simp]
theorem arrivals_cons (a : Act) (acts : List Act) :
    arrivals (a :: acts) = a.arrival?.toList ++ arrivals acts := by
  cases h : a.arrival? <;> simp [arrivals, h]

@[simp]
theorem after_concat (r : Retention) (acts : List Act) (a : Act) :
    after r (acts ++ [a]) = ((after r acts).act a).1 := by
  rw [after, List.foldl_append]
  rfl

/-- Whatever is done, the window takes in what arrives and is pruned. -/
theorem act_eq_prune (w : Window) (a : Act) :
    w.act a = prune { w with events := w.events ++ a.arrival?.toList } a.now := by
  cases a with
  | push e now => rfl
  | prune now => simp [act, Act.arrival?, Act.now]

@[simp]
theorem retention_act (w : Window) (a : Act) : (w.act a).1.retention = w.retention := by
  rw [act_eq_prune]
  unfold prune
  split <;> rfl

@[simp]
theorem retention_after (r : Retention) (acts : List Act) : (after r acts).retention = r := by
  induction acts using List.reverseRecOn with
  | nil => rfl
  | append_singleton acts a ih => rw [after_concat, retention_act, ih]

/-- What an act whose cutoff can be told makes of the events. -/
theorem events_act {w : Window} {a : Act} {cutoff : Instant}
    (h : w.retention.cutoff? a.now = some cutoff) :
    (w.act a).1.events = pruned w.retention cutoff (w.events ++ a.arrival?.toList) := by
  rw [act_eq_prune, prune]
  simp only [show a.now.sub? w.retention.age = some cutoff from h]

/-- An act whose cutoff cannot be told only takes in what arrives. -/
theorem events_act_of_fault {w : Window} {a : Act} (h : w.retention.cutoff? a.now = none) :
    (w.act a).1.events = w.events ++ a.arrival?.toList := by
  rw [act_eq_prune, prune]
  simp only [show a.now.sub? w.retention.age = none from h]

/-! ## Pruning event by event -/

/-- What stands in front of some events is left if it is fresh and there is room for it behind the
fresh ones among them. -/
@[simp]
theorem pruned_toList_append (r : Retention) (cutoff : Instant) (front : Option Event)
    (es : List Event) :
    pruned r cutoff (front.toList ++ es) =
      (front.filter fun e => isFresh cutoff e && es.countP (isFresh cutoff) < r.count).toList ++
        pruned r cutoff es := by
  cases front with
  | none => rfl
  | some e =>
      rw [List.countP_eq_length_filter, Option.toList_some, List.singleton_append]
      unfold pruned lastOf
      cases hfresh : isFresh cutoff e with
      | false => simp [hfresh]
      | true =>
          rw [List.filter_cons_of_pos hfresh, List.length_cons]
          by_cases hroom : (es.filter (isFresh cutoff)).length < r.count
          · rw [Nat.sub_eq_zero_of_le hroom, Nat.sub_eq_zero_of_le (Nat.le_of_lt hroom)]
            simp [Option.filter, hfresh, hroom]
          · rw [Nat.succ_sub (Nat.le_of_not_lt hroom), List.drop_succ_cons]
            simp [hroom]

/-! ## Survivors -/

/-- Whether an event survives its own arrival and everything that was done later. -/
structure Survives (r : Retention) (e : Event) (own : Act) (later : List Act) : Prop where
  /-- It is not too old at the last reading. -/
  fresh : r.outdates (later.getLastD own).now e = false
  /-- At every reading since, fewer events than are kept had arrived later and were not too old. -/
  room : ∀ seen ∈ later.inits,
    (arrivals seen).countP (fun f => !r.outdates (seen.getLastD own).now f) < r.count

instance (r : Retention) (e : Event) (own : Act) (later : List Act) :
    Decidable (Survives r e own later) :=
  decidable_of_iff
    (r.outdates (later.getLastD own).now e = false ∧ ∀ seen ∈ later.inits,
      (arrivals seen).countP (fun f => !r.outdates (seen.getLastD own).now f) < r.count)
    ⟨fun h => ⟨h.1, h.2⟩, fun h => ⟨h.fresh, h.room⟩⟩

/-- The arrivals that survive, in the order in which they arrived. -/
def survivors (r : Retention) : List Act → List Event
  | [] => []
  | own :: later =>
      (own.arrival?.filter fun e => Survives r e own later).toList ++ survivors r later

/-- The cutoffs never go back. -/
def Steady (r : Retention) (acts : List Act) : Prop :=
  acts.Pairwise fun a b => ∀ c ∈ r.cutoff? a.now, ∀ d ∈ r.cutoff? b.now, c ≤ d

/-- What is too old at one of the acts is too old at a later one. -/
theorem outdates_of_steady {r : Retention} {acts : List Act} {a : Act} {cutoff : Instant}
    (hsteady : Steady r (acts ++ [a])) (hcutoff : r.cutoff? a.now = some cutoff) {b : Act}
    (hb : b ∈ acts) {e : Event} (hold : r.outdates b.now e = true) :
    r.outdates a.now e = true := by
  cases hearlier : r.cutoff? b.now with
  | none =>
      rw [Retention.outdates, show b.now.sub? r.age = none from hearlier] at hold
      cases hold
  | some c =>
      have hle : c ≤ cutoff :=
        (List.pairwise_append.mp hsteady).2.2 b hb a List.mem_cons_self c hearlier cutoff hcutoff
      rw [Retention.outdates_of_cutoff hearlier] at hold
      rw [Retention.outdates_of_cutoff hcutoff]
      cases hfresh : isFresh cutoff e with
      | false => rfl
      | true =>
          rw [isFresh_of_le hle hfresh] at hold
          cases hold

/-- To survive one more act is to have been given room so far, not to be too old, and to be given
room again. -/
@[simp]
theorem survives_concat {r : Retention} {e : Event} {own : Act} {later : List Act} {a : Act} :
    Survives r e own (later ++ [a]) ↔
      (∀ seen ∈ later.inits,
        (arrivals seen).countP (fun f => !r.outdates (seen.getLastD own).now f) < r.count) ∧
      r.outdates a.now e = false ∧
      (arrivals (later ++ [a])).countP (fun f => !r.outdates a.now f) < r.count := by
  have hlast : (later ++ [a]).getLastD own = a := by simp
  constructor
  · rintro ⟨hfresh, hroom⟩
    rw [hlast] at hfresh
    refine ⟨fun seen hseen => hroom seen ?_, hfresh, ?_⟩
    · exact (List.mem_inits _ _).mpr
        (((List.mem_inits _ _).mp hseen).trans (List.prefix_append later [a]))
    · simpa only [hlast] using hroom (later ++ [a]) ((List.mem_inits _ _).mpr List.prefix_rfl)
  · rintro ⟨hroom, hfresh, hlater⟩
    refine ⟨by rwa [hlast], fun seen hseen => ?_⟩
    rcases List.prefix_concat_iff.mp ((List.mem_inits _ _).mp hseen) with rfl | hprefix
    · simpa only [hlast] using hlater
    · exact hroom seen ((List.mem_inits _ _).mpr hprefix)

/-- Who was given room at every act so far and is not too old at the next one survives so far. -/
theorem survives_of_fresh {r : Retention} {own a : Act} {later : List Act} {cutoff : Instant}
    (hsteady : Steady r (own :: later ++ [a])) (hcutoff : r.cutoff? a.now = some cutoff)
    (hroom : ∀ seen ∈ later.inits,
      (arrivals seen).countP (fun f => !r.outdates (seen.getLastD own).now f) < r.count)
    {e : Event} (hfresh : r.outdates a.now e = false) : Survives r e own later := by
  refine ⟨?_, hroom⟩
  have hmem : later.getLastD own ∈ own :: later := by
    cases hlast : later.getLast? with
    | none => simp [List.getLastD_eq_getLast?, hlast]
    | some last =>
        rw [List.getLastD_eq_getLast?, hlast]
        exact List.mem_cons_of_mem own (List.mem_of_getLast? hlast)
  by_contra hold
  rw [Bool.not_eq_false] at hold
  rw [outdates_of_steady hsteady hcutoff hmem hold] at hfresh
  cases hfresh

/-- What arrived behind an event that was given room, and is not too old yet, has survived: it was
not too old before, and there was even more room for it. -/
theorem filter_survivors {r : Retention} {own a : Act} {later : List Act} {cutoff : Instant}
    (hsteady : Steady r (later ++ [a])) (hcutoff : r.cutoff? a.now = some cutoff)
    (hroom : ∀ seen ∈ later.inits,
      (arrivals seen).countP (fun f => !r.outdates (seen.getLastD own).now f) < r.count) :
    (survivors r later).filter (fun f => !r.outdates a.now f) =
      (arrivals later).filter (fun f => !r.outdates a.now f) := by
  induction later generalizing own with
  | nil => rfl
  | cons b rest ih =>
      have hrest : ∀ seen ∈ rest.inits,
          (arrivals seen).countP (fun f => !r.outdates (seen.getLastD b).now f) < r.count := by
        intro seen hseen
        have hmem : b :: seen ∈ (b :: rest).inits :=
          (List.mem_inits _ _).mpr (List.cons_prefix_cons.mpr ⟨rfl, (List.mem_inits _ _).mp hseen⟩)
        have hmore := hroom (b :: seen) hmem
        rw [arrivals_cons, List.countP_append, List.getLastD_cons] at hmore
        omega
      rw [survivors, arrivals_cons, List.filter_append, List.filter_append,
        ih (List.Pairwise.tail hsteady) hrest]
      congr 1
      cases harrival : b.arrival? with
      | none => rfl
      | some e =>
          cases hfresh : r.outdates a.now e with
          | true => by_cases hs : Survives r e b rest <;> simp [Option.filter, hs, hfresh]
          | false =>
              have hs : Survives r e b rest := survives_of_fresh hsteady hcutoff hrest hfresh
              simp [Option.filter, hs, hfresh]

/-- To survive one more act is to have survived so far, to be fresh, and to find room behind the
other survivors that are fresh. -/
theorem survives_concat_iff {r : Retention} {own a : Act} {later : List Act} {cutoff : Instant}
    (hsteady : Steady r (own :: later ++ [a])) (hcutoff : r.cutoff? a.now = some cutoff)
    (e : Event) :
    Survives r e own (later ++ [a]) ↔
      Survives r e own later ∧ isFresh cutoff e = true ∧
        (survivors r later ++ a.arrival?.toList).countP (isFresh cutoff) < r.count := by
  have hfreshness : (fun f => !r.outdates a.now f) = isFresh cutoff := by
    funext f
    rw [Retention.outdates_of_cutoff hcutoff, Bool.not_not]
  have hfresh_iff : r.outdates a.now e = false ↔ isFresh cutoff e = true := by
    rw [← hfreshness, Bool.not_eq_true']
  have hcount : (∀ seen ∈ later.inits,
        (arrivals seen).countP (fun f => !r.outdates (seen.getLastD own).now f) < r.count) →
      (arrivals (later ++ [a])).countP (fun f => !r.outdates a.now f) =
        (survivors r later ++ a.arrival?.toList).countP (isFresh cutoff) := by
    intro hroom
    have hsame := filter_survivors (List.Pairwise.tail hsteady) hcutoff hroom
    rw [hfreshness] at hsame ⊢
    rw [arrivals_append, List.countP_append, List.countP_append, List.countP_eq_length_filter,
      ← hsame, ← List.countP_eq_length_filter, arrivals_cons]
    simp [arrivals]
  rw [survives_concat, hfresh_iff]
  constructor
  · rintro ⟨hroom, hfresh, hlater⟩
    exact ⟨survives_of_fresh hsteady hcutoff hroom (hfresh_iff.mpr hfresh), hfresh,
      hcount hroom ▸ hlater⟩
  · rintro ⟨hsurvives, hfresh, hlater⟩
    exact ⟨hsurvives.room, hfresh, (hcount hsurvives.room).symm ▸ hlater⟩

/-- Who has just arrived survives if it is fresh and anything is kept at all. -/
theorem survives_nil_iff {r : Retention} {own : Act} {cutoff : Instant}
    (hcutoff : r.cutoff? own.now = some cutoff) (e : Event) :
    Survives r e own [] ↔ isFresh cutoff e = true ∧ 0 < r.count := by
  have hfresh_iff : r.outdates own.now e = false ↔ isFresh cutoff e = true := by
    rw [Retention.outdates_of_cutoff hcutoff, Bool.not_eq_false']
  rw [← hfresh_iff]
  constructor
  · rintro ⟨hfresh, hroom⟩
    exact ⟨hfresh, hroom [] (by simp)⟩
  · rintro ⟨hfresh, hroom⟩
    refine ⟨hfresh, fun seen hseen => ?_⟩
    rw [List.prefix_nil.mp ((List.mem_inits _ _).mp hseen)]
    exact hroom

/-- One more act prunes the survivors. -/
theorem survivors_concat {r : Retention} {acts : List Act} {a : Act} {cutoff : Instant}
    (hsteady : Steady r (acts ++ [a])) (hcutoff : r.cutoff? a.now = some cutoff) :
    survivors r (acts ++ [a]) =
      pruned r cutoff (survivors r acts ++ a.arrival?.toList) := by
  induction acts with
  | nil =>
      have hpruned := pruned_toList_append r cutoff a.arrival? []
      have hempty : pruned r cutoff [] = [] := by simp [pruned, lastOf]
      rw [List.append_nil, hempty] at hpruned
      rw [List.nil_append, survivors, survivors, List.nil_append, hpruned]
      congr 3
      funext e
      rw [List.countP_nil, Bool.eq_iff_iff, decide_eq_true_eq, survives_nil_iff hcutoff,
        Bool.and_eq_true, decide_eq_true_eq]
  | cons b rest ih =>
      rw [List.cons_append, survivors, survivors, ih (List.Pairwise.tail hsteady),
        List.append_assoc, pruned_toList_append]
      congr 2
      rw [Option.filter_filter]
      congr 1
      funext e
      rw [Bool.eq_iff_iff, decide_eq_true_eq, survives_concat_iff hsteady hcutoff]
      simp only [Bool.and_eq_true, decide_eq_true_eq]

/-! ## What a window holds -/

/-- What a window holds after any acts whose cutoffs never go back. -/
theorem events_after_eq_survivors {r : Retention} {acts : List Act}
    (hrange : ∀ a ∈ acts, (r.cutoff? a.now).isSome = true) (hsteady : Steady r acts) :
    (after r acts).events = survivors r acts := by
  induction acts using List.reverseRecOn with
  | nil => rfl
  | append_singleton acts a ih =>
      obtain ⟨cutoff, hcutoff⟩ :=
        Option.isSome_iff_exists.mp (hrange a (List.mem_append_right acts List.mem_cons_self))
      rw [after_concat, events_act (by rw [retention_after]; exact hcutoff), retention_after,
        ih (fun b hb => hrange b (List.mem_append_left [a] hb)) (List.pairwise_append.mp hsteady).1,
        survivors_concat hsteady hcutoff]

/-- Nothing is held that did not arrive, and nothing overtakes. -/
theorem events_after_sublist (r : Retention) (acts : List Act) :
    (after r acts).events.Sublist (arrivals acts) := by
  induction acts using List.reverseRecOn with
  | nil => exact List.Sublist.slnil
  | append_singleton acts a ih =>
      have hmore : ((after r acts).events ++ a.arrival?.toList).Sublist
          (arrivals (acts ++ [a])) := by
        rw [arrivals_append, arrivals_cons]
        exact ih.append (List.sublist_append_left _ _)
      rw [after_concat]
      cases hcutoff : (after r acts).retention.cutoff? a.now with
      | none =>
          rw [events_act_of_fault hcutoff]
          exact hmore
      | some cutoff =>
          rw [events_act hcutoff]
          exact ((pruned_suffix _ _ _).sublist.trans List.filter_sublist).trans hmore

/-- Behind an act whose cutoff can be told a window keeps its number and nothing too old. -/
theorem bounded_after_concat {r : Retention} {acts : List Act} {a : Act}
    (hrange : (r.cutoff? a.now).isSome = true) :
    (after r (acts ++ [a])).events.length ≤ r.count ∧
      ∀ e ∈ (after r (acts ++ [a])).events, r.outdates a.now e = false := by
  obtain ⟨cutoff, hcutoff⟩ := Option.isSome_iff_exists.mp hrange
  rw [after_concat, events_act (by rw [retention_after]; exact hcutoff), retention_after]
  refine ⟨length_pruned_le r cutoff _, fun e he => ?_⟩
  have hfresh := (List.mem_filter.mp ((pruned_suffix r cutoff _).mem he)).2
  rw [Retention.outdates_of_cutoff hcutoff, hfresh]
  rfl

/-- Readings that never go back and never lie in a leap second have cutoffs that never go back. -/
theorem steady_of_readings (r : Retention) {acts : List Act}
    (hreadings : acts.Pairwise fun a b => a.now ≤ b.now)
    (hleap : ∀ a ∈ acts, a.now.inLeapSecond = false) : Steady r acts := by
  refine hreadings.imp_of_mem fun {a b} ha hb hle c hc d hd => ?_
  exact Instant.sub?_mono hle (hleap a ha) (hleap b hb) hc hd

/-- Whatever the readings are, a window holds some of the arrivals in their order, and behind an act
whose cutoff can be told it keeps its number and nothing too old.  If the cutoffs never go back it
holds exactly the survivors.  They never go back for readings that never go back and do not lie in a
leap second. -/
theorem events_after_law (r : Retention) (acts : List Act) :
    ((∀ a ∈ acts, (r.cutoff? a.now).isSome = true) → Steady r acts →
      (after r acts).events = survivors r acts) ∧
    ((acts.Pairwise fun a b => a.now ≤ b.now) → (∀ a ∈ acts, a.now.inLeapSecond = false) →
      Steady r acts) ∧
    (after r acts).events.Sublist (arrivals acts) ∧
    ∀ earlier last, acts = earlier ++ [last] → (r.cutoff? last.now).isSome = true →
      (after r acts).events.length ≤ r.count ∧
        ∀ e ∈ (after r acts).events, r.outdates last.now e = false := by
  refine ⟨events_after_eq_survivors, steady_of_readings r, events_after_sublist r acts, ?_⟩
  rintro earlier last rfl hrange
  exact bounded_after_concat hrange

/-- Two events are kept, for ten seconds.  The undated one makes room for the second dated one, and
the first dated one is too old in the end. -/
theorem events_after_law_of_undated_in_front :
    let r : Retention := ⟨2, .ofSeconds 10⟩
    let event (name : String) (t : Option Instant) : Event :=
      ⟨⟨"ServiceSet", name, none⟩, "ServiceInstalling", "", "Normal", t, none, none⟩
    let one : Instant := ⟨1, 0, by decide, by decide, by decide⟩
    let two : Instant := ⟨2, 0, by decide, by decide, by decide⟩
    let twelve : Instant := ⟨12, 0, by decide, by decide, by decide⟩
    let acts : List Act :=
      [ .push (event "a" none) default, .push (event "b" (some one)) one,
        .push (event "c" (some two)) two, .prune twelve ]
    survivors r acts = [event "c" (some two)] ∧
      (after r acts).events = [event "c" (some two)] ∧
      ∀ e ∈ (after r acts).events, r.outdates twelve e = false := by
  intro r event one two twelve acts
  have hsurvivors : survivors r acts = [event "c" (some two)] := by
    decide +kernel
  have hrange : ∀ a ∈ acts, (r.cutoff? a.now).isSome = true := by
    decide +kernel
  have hreadings : acts.Pairwise fun a b => a.now ≤ b.now := by
    decide +kernel
  have hleap : ∀ a ∈ acts, a.now.inLeapSecond = false := by
    decide +kernel
  obtain ⟨hexact, hsteady, -, hbounded⟩ := events_after_law r acts
  exact ⟨hsurvivors, (hexact hrange (hsteady hreadings hleap)).trans hsurvivors,
    (hbounded (acts.take 3) (.prune twelve) rfl (hrange _ (by decide +kernel))).2⟩

/-- Half a second into a leap second one looks back ten seconds to 23:59:50.5, and an event of
23:59:50.3 is dropped.  A later reading looks back to 23:59:50.2 only, but the event does not come
back. -/
theorem events_after_ne_survivors_of_leap_second :
    let r : Retention := ⟨1, .ofSeconds 10⟩
    let inLeapSecond : Instant := ⟨1483228799, 1500000000, by decide, by decide, by decide⟩
    let later : Instant := ⟨1483228800, 200000000, by decide, by decide, by decide⟩
    let happened : Instant := ⟨1483228790, 300000000, by decide, by decide, by decide⟩
    let e : Event :=
      ⟨⟨"ServiceSet", "a", none⟩, "ServiceInstalling", "", "Normal", some happened, none, none⟩
    let acts : List Act := [.push e inLeapSecond, .prune later]
    (acts.Pairwise fun a b => a.now ≤ b.now) ∧
      (∀ a ∈ acts, (r.cutoff? a.now).isSome = true) ∧
      survivors r acts = [e] ∧ (after r acts).events = [] := by
  decide +kernel

end Window
end ProvisionWatch

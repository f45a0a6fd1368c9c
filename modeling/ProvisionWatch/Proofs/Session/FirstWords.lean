import ProvisionWatch.Proofs.Session.Core

/-!
# The first words of a session

A session opens with what the fetched deployment says in the light of the listed
events.  One of those events may have a word of its own: the newest that says
anything at all, if its rule has another phase.  The sink is handed both, because
they differ in their phase, and nothing else.

Main results:

- Theorem `follows_evaluateEvent`: how an event's update differs from what its
  deployment says.
- Theorem `openWith_words`: with which updates a session opens.
-/

namespace ProvisionWatch

/-! ## Events that move the phase -/

/-- An event moves on from a first update: that is not the last one, the event is the newest that
says anything, and the first rule for its reason has another phase. -/
structure MovesOn (rules : List Rule) (newest : Option Event) (first : Update) (e : Event)
    (rule : Rule) : Prop where
  going : first.terminal = false
  latest : newest = some e
  applies : rules.find? (fun r => r.reason == e.reason) = some rule
  moves : rule.phase ≠ first.phase

/-- An update tells of an event in the phase of a rule, and shows the deployment as a first update
did. -/
structure Update.Follows (u first : Update) (e : Event) (rule : Rule) : Prop where
  phase : u.phase = rule.phase
  reason : u.reason = e.reason
  source : u.source = .event
  conditions : u.conditions = first.conditions
  services : u.services = first.services
  cluster : u.cluster = first.cluster
  going : u.terminal = false

/-- What is said after a first update, if anything is: one more update exactly if an event moves on
from the first, and it tells of that event. -/
structure Sequel (rules : List Rule) (newest : Option Event) (first : Update)
    (second : Option Update) : Prop where
  said_iff : second.isSome = true ↔ ∃ e rule, MovesOn rules newest first e rule
  follows : ∀ u, second = some u →
    ∃ e rule, MovesOn rules newest first e rule ∧ u.Follows first e rule

namespace Sequel

variable {rules : List Rule} {newest : Option Event} {first u : Update} {e : Event} {rule : Rule}

theorem silent (h : ¬ ∃ e rule, MovesOn rules newest first e rule) :
    Sequel rules newest first none :=
  ⟨by simpa using h, by simp⟩

theorem spoken (hmoves : MovesOn rules newest first e rule) (hfollows : u.Follows first e rule) :
    Sequel rules newest first (some u) := by
  refine ⟨⟨fun _ => ⟨e, rule, hmoves⟩, fun _ => rfl⟩, fun v hv => ?_⟩
  obtain rfl := Option.some.inj hv
  exact ⟨e, rule, hmoves, hfollows⟩

end Sequel

/-- A scope that differs in its events only has the same rules. -/
theorem Scope.rules_of_cleared {s t : Scope} (h : s.cleared = t.cleared) : s.rules = t.rules :=
  congrArg (fun scope => scope.rules) h

namespace Subscription

variable {s seeded : Subscription} {now : Instant} {e : Event} {newest : Option Event}

/-- Where neither the snapshot nor any rule is a verdict, what an event says is in the phase of its
rule, and shows the deployment as any update of the snapshot does. -/
theorem follows_evaluateEvent {snapshot : Snapshot} {u : Update}
    (hrules : ∀ rule ∈ s.scope.rules, rule.phase.isTerminal = false)
    (hsnapshot : s.lastSnapshot = some snapshot) (hundecided : snapshot.isDecided = false)
    (h : s.evaluateEvent e now = some u) (events : List Event) (now' : Instant) :
    ∃ rule, s.scope.rule? e.reason = some rule ∧
      u.Follows (.ofSnapshot snapshot events now') e rule := by
  have hclassified : ((s.lastSnapshot.getD .blank).classify (s.scope.covered ++ [e])).isTerminal =
      false := by
    rw [hsnapshot, Option.getD_some, Snapshot.isTerminal_classify]
    exact hundecided
  obtain ⟨rule, hrule, hphase⟩ := s.evaluateEvent_phase e now h hclassified
  have hterminal := terminal_evaluateEvent h
  rw [hphase, hrules rule (List.mem_of_find?_eq_some hrule)] at hterminal
  obtain ⟨evaluation, hevaluation, rfl⟩ := Option.map_eq_some_iff.mp h
  have hreason : evaluation.reason = e.reason := by
    unfold Scope.evaluate at hevaluation
    split at hevaluation
    · obtain ⟨_, -, rfl⟩ := Option.map_eq_some_iff.mp hevaluation
      rfl
    · cases hevaluation
  refine ⟨rule, hrule, hphase, hreason, rfl, ?_, ?_, ?_, hterminal⟩
  · rw [hsnapshot]
    rfl
  · rw [hsnapshot]
    rfl
  · rw [hsnapshot]
    rfl

/-- An event in scope says something exactly if there is a rule for it. -/
@[simp]
theorem evaluateEvent_isSome (s : Subscription) (e : Event) (now : Instant) :
    (s.evaluateEvent e now).isSome = (s.scope.evaluate e now).isSome :=
  Option.isSome_map

/-! ## Openings -/

/-- The listed event that may speak up says something. -/
theorem evaluates_of_seed {listed : List Event} {limit : Nat}
    (h : s.seed listed limit now = (seeded, .ok newest)) (hnewest : newest = some e) :
    (seeded.scope.evaluate e now).isSome = true := by
  obtain rfl := hnewest
  unfold seed at h
  dsimp only at h
  split at h
  · obtain ⟨rfl, hfound⟩ := Prod.mk.inj h
    have htells := List.find?_some (Except.ok.inj hfound)
    exact htells
  · cases h

/-- The subscription once it has said what the fetched deployment says. -/
def begun (s : Subscription) (d : Deployment) (now : Instant) : Subscription :=
  let first := Update.ofSnapshot d.snapshot s.scope.covered now
  { s.withSnapshot d.snapshot now with phase := first.phase, lastSaid := some first.said }

/-- What is said first is handed over. -/
theorem openFirst_of_silent (h : s.lastSaid = none) (d : Deployment) (now : Instant) :
    s.openFirst d now =
      (s.begun d now, .offered (.ofSnapshot d.snapshot s.scope.covered now)) := by
  rw [openFirst_eq, deliver_of_ne (by simp [withSnapshot, h])]
  rfl

/-- The one event that may speak up does so exactly if it moves on from what the deployment says. -/
theorem openReplay_begun {d : Deployment}
    (hrules : ∀ rule ∈ s.scope.rules, rule.phase.isTerminal = false)
    (htells : ∀ e, newest = some e → (s.scope.evaluate e now).isSome = true)
    (hgoing : (Update.ofSnapshot d.snapshot s.scope.covered now).terminal = false) :
    let first := Update.ofSnapshot d.snapshot s.scope.covered now
    ∃ second : Option Update,
      ((s.begun d now).openReplay newest now).2 = second.map .offered ∧
        Sequel s.scope.rules newest first second ∧
        ((s.begun d now).openReplay newest now).1.phase = (second.getD first).phase := by
  intro first
  have hfollows : ∀ {e : Event} {u : Update}, (s.begun d now).evaluateEvent e now = some u →
      ∃ rule, s.scope.rule? e.reason = some rule ∧ u.Follows first e rule := by
    intro e u hevaluates
    have hundecided := (Update.terminal_ofSnapshot d.snapshot s.scope.covered now).symm.trans hgoing
    exact follows_evaluateEvent (s := s.begun d now) hrules rfl hundecided hevaluates _ _
  rcases (s.begun d now).openReplay_cases newest now with
    hstill | ⟨e, u, rfl, hevaluates, hmoves, hspeaks⟩
  · -- An event that moves on would have spoken up.
    have hnone : ¬ ∃ e rule, MovesOn s.scope.rules newest first e rule := by
      rintro ⟨e, rule, hmoves⟩
      obtain rfl := hmoves.latest
      obtain ⟨u, hevaluates⟩ : ∃ u, (s.begun d now).evaluateEvent e now = some u := by
        rw [← Option.isSome_iff_exists, evaluateEvent_isSome]
        exact htells e rfl
      obtain ⟨rule', happlies, hfollows⟩ := hfollows hevaluates
      obtain rfl := Option.some.inj (happlies.symm.trans hmoves.applies)
      have hother : u.phase ≠ first.phase := hfollows.phase ▸ hmoves.moves
      rw [openReplay_of_moves hevaluates hother] at hstill
      cases congrArg Prod.snd hstill
    rw [hstill]
    exact ⟨none, rfl, .silent hnone, rfl⟩
  · obtain ⟨rule, happlies, hfollows⟩ := hfollows hevaluates
    have hmoves : MovesOn s.scope.rules (some e) first e rule :=
      ⟨hgoing, rfl, happlies, hfollows.phase ▸ hmoves⟩
    have hsaid : some first.said ≠ some u.said := fun h =>
      hmoves.moves (hfollows.phase ▸ congrArg Said.phase (Option.some.inj h).symm)
    rw [hspeaks, deliver_of_ne hsaid]
    exact ⟨some u, rfl, .spoken hmoves hfollows, rfl⟩

/-- With which updates a session opens, as long as no rule has a terminal phase: with what the
deployment says in the light of the listed events, and one more if one of these moves on from that.
Both are handed over, and the session is in the phase of the last. -/
theorem openWith_words (hsilent : s.lastSaid = none)
    (hrules : ∀ rule ∈ s.scope.rules, rule.phase.isTerminal = false) {listed : List Event}
    {limit : Nat} (hseed : s.seed listed limit now = (seeded, .ok newest)) (d : Deployment)
    (hearsEvents : Bool) :
    let first := Update.ofSnapshot d.snapshot seeded.scope.covered now
    ∃ (o : Opening) (second : Option Update),
      s.openWith d listed limit hearsEvents now = .ok o ∧
        o.effects = (first :: second.toList).map (fun u => .delivery (.offered u)) ∧
        Sequel s.scope.rules newest first second ∧
        o.session.subscription.phase = (second.getD first).phase := by
  intro first
  have hsilent' : seeded.lastSaid = none := by
    obtain ⟨scope, -, rfl⟩ := seed_eq hseed
    exact hsilent
  have hsame : seeded.scope.rules = s.scope.rules := by
    obtain ⟨scope, hcleared, rfl⟩ := seed_eq hseed
    exact Scope.rules_of_cleared hcleared
  rw [← hsame] at hrules ⊢
  rw [openWith, hseed]
  dsimp only
  rw [openFirst_of_silent hsilent']
  cases hterminal : first.terminal with
  | true =>
      have hnone : ¬ ∃ e rule, MovesOn seeded.scope.rules newest first e rule := by
        rintro ⟨e, rule, hmoves⟩
        have hgoing := hmoves.going
        rw [hterminal] at hgoing
        cases hgoing
      exact ⟨_, none, if_pos hterminal, rfl, .silent hnone, rfl⟩
  | false =>
      obtain ⟨second, hsecond, hsequel, hphase⟩ :=
        openReplay_begun hrules (fun e => evaluates_of_seed hseed) hterminal
      have hgoing : ¬ first.terminal = true := by
        rw [hterminal]
        exact Bool.false_ne_true
      refine ⟨_, second, if_neg hgoing, ?_, hsequel, hphase⟩
      dsimp only
      rw [hsecond]
      cases second <;> rfl

end Subscription
end ProvisionWatch

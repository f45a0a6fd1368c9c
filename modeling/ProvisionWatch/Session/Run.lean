import ProvisionWatch.Session.Opening

/-!
# Runs of a session

A session turns to one signal after the other, each at its own reading of the
clock: an input, or the cancellation.  The first signal that ends it is the
last it turns to.  What it hands to the sink over the whole run, from its
opening on, is the stream that an observer sees.

Main results:

- Theorem `run_append`: a run that goes on takes up where it was left.
- Theorem `run_append_of_ended`: after the end nothing has an effect.
- Theorem `updates_run_cons`: the first signal speaks first.
-/

namespace ProvisionWatch

/-- What a session turns to. -/
inductive Signal where
  | cancel
  | input (input : Input)

/-! ## What the sink is handed -/

/-- The update that an effect hands to the sink. -/
def Effect.offered? : Effect → Option Update
  | delivery d => d.offered?
  | watchError _ _ | stall => none

/-- The updates that effects hand to the sink, in order. -/
def offeredUpdates (effects : List Effect) : List Update :=
  effects.filterMap Effect.offered?

/-- Without effects no update is handed over. -/
@[simp]
theorem offeredUpdates_nil : offeredUpdates [] = [] :=
  rfl

/-- The updates that a session hands to the sink. -/
def Reaction.updates (r : Reaction) : List Update :=
  offeredUpdates r.effects

/-! ## Signals in order -/

namespace Session

/-- Turn to a signal. -/
def take (s : Session) (now : Instant) : Signal → Reaction
  | .cancel => { session := s, effects := [], ending := some .cancelled }
  | .input input => s.react now input

/-- Turn to signals in order, each with the reading of the clock, until one ends the session. -/
def run (s : Session) : List (Instant × Signal) → Reaction
  | [] => s.idle
  | (now, signal) :: rest =>
      let first := s.take now signal
      match first.ending with
      | some _ => first
      | none =>
          let later := first.session.run rest
          { later with effects := first.effects ++ later.effects }

/-- A session that ends at its first signal is over. -/
theorem run_cons_of_ended (s : Session) (now : Instant) (signal : Signal) (ending : Ending)
    (rest : List (Instant × Signal)) (h : (s.take now signal).ending = some ending) :
    s.run ((now, signal) :: rest) = s.take now signal := by
  simp [run, h]

/-- Else it goes on from where that signal left it. -/
theorem run_cons (s : Session) (now : Instant) (signal : Signal)
    (rest : List (Instant × Signal)) (h : (s.take now signal).ending = none) :
    s.run ((now, signal) :: rest) =
      { (s.take now signal).session.run rest with
        effects := (s.take now signal).effects ++
          ((s.take now signal).session.run rest).effects } := by
  simp [run, h]

/-- A session that has not ended goes on from where it stands. -/
theorem run_append (s : Session) (signals later : List (Instant × Signal))
    (h : (s.run signals).ending = none) :
    s.run (signals ++ later) =
      { (s.run signals).session.run later with
        effects := (s.run signals).effects ++ ((s.run signals).session.run later).effects } := by
  induction signals generalizing s with
  | nil => simp [run]
  | cons timed rest ih =>
      obtain ⟨now, signal⟩ := timed
      cases hfirst : (s.take now signal).ending with
      | some ending =>
          rw [run_cons_of_ended s now signal ending rest hfirst, hfirst] at h
          cases h
      | none =>
          rw [run_cons s now signal rest hfirst] at h ⊢
          rw [List.cons_append, run_cons s now signal (rest ++ later) hfirst, ih _ h]
          simp

/-- A session that has ended does not see what comes later. -/
theorem run_append_of_ended (s : Session) (signals later : List (Instant × Signal))
    (ending : Ending) (h : (s.run signals).ending = some ending) :
    s.run (signals ++ later) = s.run signals := by
  induction signals generalizing s with
  | nil => simp [run] at h
  | cons timed rest ih =>
      obtain ⟨now, signal⟩ := timed
      cases hfirst : (s.take now signal).ending with
      | some ending =>
          rw [List.cons_append, run_cons_of_ended s now signal ending _ hfirst,
            run_cons_of_ended s now signal ending _ hfirst]
      | none =>
          rw [run_cons s now signal rest hfirst] at h
          rw [List.cons_append, run_cons s now signal (rest ++ later) hfirst,
            run_cons s now signal rest hfirst, ih _ h]

/-- The updates of a run are those of its first signal and those of what follows. -/
theorem updates_run_cons (s : Session) (now : Instant) (signal : Signal)
    (rest : List (Instant × Signal)) (h : (s.take now signal).ending = none) :
    (s.run ((now, signal) :: rest)).updates =
      (s.take now signal).updates ++ ((s.take now signal).session.run rest).updates := by
  simp [run_cons s now signal rest h, Reaction.updates, offeredUpdates]

end Session

/-! ## From the opening on -/

namespace Opening

/-- The whole run of a session: what its opening says, and what it says afterwards unless that was
all. -/
def run (o : Opening) (signals : List (Instant × Signal)) : Reaction :=
  if o.finished then
    { session := o.session, effects := o.effects, ending := some .terminal }
  else
    let later := o.session.run signals
    { later with effects := o.effects ++ later.effects }

end Opening
end ProvisionWatch

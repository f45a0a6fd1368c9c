import ProvisionWatch.Api.Presence

/-!
# Following a watched deployment

A watch keeps a store of what it watches: a listing replaces what the store
holds once it is done, and what happens afterwards changes it at once.  An
observer never sees the store.  He only sees changes of a deployment, from the
moment it was fetched on.  Whenever no listing is under way he nevertheless
holds what the store holds.

Listings can be cut off by the next one.  What was listed until then has been
passed on, so in the middle of a listing observer and store may differ; what
carries over is only whether the deployment is thought to be there.

Main results:

- Theorem `react_tracks`: one report keeps observer and store in step.
- Theorem `observed_eq_held`: between listings the observer holds what the store
  holds.
-/

namespace ProvisionWatch
namespace Api

/-! ## Reports in order -/

/-- Where a watch stands between two reports. -/
inductive WatchStage where
  /-- Nothing was reported yet. -/
  | unopened
  /-- A listing is under way. -/
  | listing
  /-- The listing is done, and happenings follow. -/
  | following
deriving DecidableEq, Repr

namespace WatchStage

/-- The stage after a report, if it can come at this stage.  A listing can begin at any time, also
in the middle of another one. -/
def next? {α : Type} : WatchStage → ObjectEvent α → Option WatchStage
  | _, .listing => some listing
  | listing, .listed _ => some listing
  | listing, .listingDone => some following
  | following, .applied _ | following, .deleted _ => some following
  | unopened, _ | listing, .applied _ | listing, .deleted _ | following, .listed _
  | following, .listingDone => none

/-- The stage after reports in order, if they can come in this order. -/
def after? {α : Type} (stage : WatchStage) : List (ObjectEvent α) → Option WatchStage
  | [] => some stage
  | e :: rest => (stage.next? e).bind fun stage => stage.after? rest

@[simp]
theorem after?_append {α : Type} (stage : WatchStage) (before later : List (ObjectEvent α)) :
    stage.after? (before ++ later) =
      (stage.after? before).bind fun stage => stage.after? later := by
  induction before generalizing stage with
  | nil => rfl
  | cons e rest ih =>
      cases h : stage.next? e with
      | none => simp [after?, h]
      | some next => simp [after?, h, ih]

end WatchStage

/-- Reports come as from a watch: listings one after the other, each complete and followed by
happenings or cut off by the next one. -/
def ComesInOrder {α : Type} (reports : List (ObjectEvent α)) : Prop :=
  (WatchStage.unopened.after? reports).isSome = true

/-- After this report no listing is under way. -/
def ObjectEvent.settles {α : Type} : ObjectEvent α → Bool
  | .listingDone | .applied _ | .deleted _ => true
  | .listing | .listed _ => false

/-- After a report that settles things, a watch stands between listings. -/
theorem WatchStage.following_of_settles {α : Type} {stage next : WatchStage} {e : ObjectEvent α}
    (hnext : stage.next? e = some next) (he : e.settles = true) : next = following := by
  cases e with
  | listing | listed => cases he
  | listingDone =>
      cases stage with
      | listing => exact (Option.some.inj hnext).symm
      | unopened | following => cases hnext
  | applied | deleted =>
      cases stage with
      | following => exact (Option.some.inj hnext).symm
      | unopened | listing => cases hnext

/-! ## The store of a watch -/

/-- What a watch holds, and what the listing at hand has shown last. -/
structure Store where
  held : Option Deployment
  shown : Option Deployment

namespace Store

/-- Nothing is held. -/
def empty : Store :=
  { held := none, shown := none }

/-- Take in a report: what is listed replaces what is held when the listing is done. -/
def take (s : Store) : ObjectEvent Deployment → Store
  | .listing => { s with shown := none }
  | .listed d => { s with shown := some d }
  | .listingDone => { s with held := s.shown }
  | .applied d => { s with held := some d }
  | .deleted _ => { s with held := none }

/-- Take in reports in order. -/
def takeAll (s : Store) (reports : List (ObjectEvent Deployment)) : Store :=
  reports.foldl take s

end Store

/-! ## The observer -/

/-- What is there after a change. -/
def leftBy (c : Change) : Option Deployment :=
  match c.kind with
  | .added | .modified => some c.deployment
  | .deleted => none

/-- What an observer holds after changes in order, if he holds something already. -/
def observed (held : Option Deployment) (changes : List Change) : Option Deployment :=
  changes.foldl (fun _ c => leftBy c) held

namespace Presence

/-- What is known of a deployment agrees with what an observer and the store of the watch hold. -/
structure Tracks (stage : WatchStage) (p : Presence) (seen : Option Deployment)
    (store : Store) : Prop where
  present : p.present = seen.isSome
  shown : stage = .listing → p.listed = true → seen = store.shown
  unshown : stage = .listing → p.listed = false → store.shown = none
  held : stage = .following → seen = store.held

theorem tracks_start (target : Target) (fetched : Deployment) :
    Tracks .unopened (.start target) (some fetched) .empty where
  present := rfl
  shown := nofun
  unshown := nofun
  held := nofun

/-- An observer holds a deployment that is seen. -/
@[simp]
theorem observed_see (p : Presence) (d : Deployment) (seen : Option Deployment) :
    observed seen (p.see d).2.toList = some d := by
  cases h : p.last.isSome <;> simp [see, observed, leftBy, h]

/-- One report keeps all three in step. -/
theorem react_tracks {stage next : WatchStage} {p : Presence} {seen : Option Deployment}
    {store : Store} {e : ObjectEvent Deployment} (h : Tracks stage p seen store)
    (hnext : stage.next? e = some next) :
    Tracks next (p.react e).1 (observed seen (p.react e).2.toList) (store.take e) := by
  cases e with
  | listing =>
      obtain rfl : WatchStage.listing = next := Option.some.inj hnext
      exact ⟨h.present, by simp [react], fun _ _ => rfl, by simp⟩
  | listed d =>
      obtain rfl : next = .listing := by
        cases stage with
        | listing => exact (Option.some.inj hnext).symm
        | unopened | following => cases hnext
      have hseen := observed_see { p with listed := true } d seen
      refine ⟨?_, fun _ _ => hseen, by simp [react, see], by simp⟩
      exact (congrArg Option.isSome hseen).symm
  | applied d =>
      obtain rfl := WatchStage.following_of_settles hnext rfl
      have hseen := observed_see p d seen
      exact ⟨(congrArg Option.isSome hseen).symm, by simp, by simp, fun _ => hseen⟩
  | deleted d =>
      obtain rfl := WatchStage.following_of_settles hnext rfl
      exact ⟨rfl, by simp, by simp, fun _ => rfl⟩
  | listingDone =>
      obtain rfl := WatchStage.following_of_settles hnext rfl
      obtain rfl : stage = .listing := by
        cases stage with
        | listing => rfl
        | unopened | following => cases hnext
      cases hlisted : p.listed with
      | true =>
          -- The listing has shown the deployment, and the observer was told at once.
          have hreact : p.react .listingDone = (p, none) := p.react_listingDone_of_listed hlisted
          rw [hreact]
          exact ⟨h.present, by simp, by simp, fun _ => h.shown rfl hlisted⟩
      | false =>
          have hempty := h.unshown rfl hlisted
          cases hpresent : p.present with
          | true =>
              have hreact : p.react .listingDone =
                  ({ p with last := none, present := false },
                    some { deployment := p.remembered, kind := .deleted }) := by
                simp [react, hlisted, hpresent]
              rw [hreact]
              exact ⟨rfl, by simp, by simp, fun _ => hempty.symm⟩
          | false =>
              have hreact : p.react .listingDone = (p, none) := by
                simp [react, hpresent]
              have hgone : seen = none := by
                simpa [hpresent] using h.present
              rw [hreact]
              exact ⟨h.present, by simp, by simp, fun _ => hgone.trans hempty.symm⟩

/-- Reports in order keep all three in step. -/
theorem reactAll_tracks {stage last : WatchStage} {p : Presence} {seen : Option Deployment}
    {store : Store} {reports : List (ObjectEvent Deployment)} (h : Tracks stage p seen store)
    (hlast : stage.after? reports = some last) :
    Tracks last (p.reactAll reports).1 (observed seen (p.reactAll reports).2)
      (store.takeAll reports) := by
  induction reports generalizing stage p seen store with
  | nil =>
      obtain rfl := Option.some.inj hlast
      exact h
  | cons e rest ih =>
      obtain ⟨next, hnext, hrest⟩ := Option.bind_eq_some_iff.mp hlast
      have hlater := ih (react_tracks h hnext) hrest
      simp only [reactAll]
      rw [observed, List.foldl_append]
      exact hlater

/-- Reports come as from a watch.  Right after the end of each listing, and after each happening, an
observer who holds the deployment that was fetched, and then follows the changes, holds what the
store of the watch holds. -/
theorem observed_eq_held (target : Target) (fetched : Deployment)
    {before after : List (ObjectEvent Deployment)} {e : ObjectEvent Deployment}
    (hreports : ComesInOrder (before ++ e :: after)) (he : e.settles = true) :
    observed (some fetched) ((start target).reactAll (before ++ [e])).2 =
      (Store.empty.takeAll (before ++ [e])).held := by
  obtain ⟨last, hlast⟩ := Option.isSome_iff_exists.mp hreports
  rw [WatchStage.after?_append] at hlast
  obtain ⟨stage, hbefore, hlast⟩ := Option.bind_eq_some_iff.mp hlast
  obtain ⟨next, hnext, -⟩ := Option.bind_eq_some_iff.mp hlast
  obtain rfl := WatchStage.following_of_settles hnext he
  have hreached : WatchStage.unopened.after? (before ++ [e]) = some .following := by
    rw [WatchStage.after?_append, hbefore]
    simp [WatchStage.after?, hnext]
  exact (reactAll_tracks (tracks_start target fetched) hreached).held rfl

/-- The first listing is cut off after it has shown the deployment, the second one is empty, and the
deployment comes back.  Two more listings are cut off, one after it has shown the deployment; only
the last one is complete, and shows nothing. -/
theorem observed_eq_held_of_cut_off_listings :
    let d := Deployment.named "ns" "a"
    ComesInOrder [ .listing, .listed d, .listing, .listingDone, .applied d, .listing, .listed d,
        .listing, .listing, .listingDone ] ∧
      observed (some d) ((start ⟨"ns", "a"⟩).reactAll [ .listing, .listed d, .listing,
        .listingDone, .applied d, .listing, .listed d, .listing, .listing, .listingDone ]).2 =
          none := by
  intro d
  refine ⟨rfl, ?_⟩
  exact @observed_eq_held ⟨"ns", "a"⟩ d [ .listing, .listed d, .listing, .listingDone,
    .applied d, .listing, .listed d, .listing, .listing ] [] .listingDone rfl rfl

end Presence
end Api
end ProvisionWatch

import ProvisionWatch.Api.Collaborators
import ProvisionWatch.Proofs.Api.Following

/-!
# What a watch reports

Whatever the cluster sends, a watch reports listings and happenings in their
order: a listing begins before anything is listed, and nothing happens before a
listing is done.  Errors come in between and change nothing in it.  So an
observer who is given the changes of a watched deployment, errors and all, holds
what the store of the watch holds whenever the watch follows what happens.

Main results:

- Theorem `followStream_of_startsOver`: behind a line that makes everything start
  over nothing of a stream is read.
- Theorem `follow_comesInOrder`: a watch reports in order.
- Theorem `watchDeployment_keeps_up`: the items that a watch passes on keep an
  observer in step with its store.
-/

namespace ProvisionWatch
namespace Api

variable {α : Type} {d : Json.Decoder (Versioned α)}

/-! ## Streams -/

/-- Whether a line makes everything start over: an object comes without a version, or the cluster
cannot go on from where the watch was. -/
def Line.startsOver : Line α → Bool
  | .applied a | .deleted a => a.version.isNone
  | .report refusal => refusal.code == 410
  | .bookmark | .fault _ => false

/-- A stream makes everything start over exactly if one of its lines does. -/
theorem followStream_again_iff {lines : List (Line α)} :
    (followStream lines).2 = true ↔ ∃ line ∈ lines, line.startsOver = true := by
  induction lines with
  | nil => simp [followStream]
  | cons line rest ih =>
      simp only [List.mem_cons, exists_eq_or_imp]
      cases line with
      | applied a | deleted a =>
          cases hversion : a.version with
          | none => simp [followStream, Line.startsOver, hversion]
          | some version => simpa [followStream, Line.startsOver, hversion] using ih
      | bookmark | fault => simpa [followStream, Line.startsOver] using ih
      | report refusal =>
          by_cases hcode : refusal.code = 410
          · simp [followStream, Line.startsOver, hcode]
          · simpa [followStream, Line.startsOver, hcode] using ih

/-- Behind a line that makes everything start over nothing of a stream is read. -/
theorem followStream_of_startsOver {line : Line α} (hline : line.startsOver = true)
    (before after : List (Line α)) :
    followStream (before ++ line :: after) = followStream (before ++ [line]) := by
  induction before with
  | nil =>
      cases line with
      | applied a | deleted a =>
          have hversion : a.version = none := Option.isNone_iff_eq_none.mp hline
          simp [followStream, hversion]
      | report refusal =>
          have hcode : refusal.code = 410 := beq_iff_eq.mp hline
          simp [followStream, hcode]
      | bookmark | fault => cases hline
  | cons first rest ih => simp only [List.cons_append, followStream, ih]

/-! ## Reports in order -/

/-- What is reported about objects, errors aside. -/
def reported (reports : List (WatcherReport α)) : List (ObjectEvent α) :=
  reports.filterMap Except.toOption

@[simp]
theorem reported_ok (e : ObjectEvent α) (rest : List (WatcherReport α)) :
    reported (.ok e :: rest) = e :: reported rest :=
  rfl

@[simp]
theorem reported_error (e : WatcherError) (rest : List (WatcherReport α)) :
    reported (.error e :: rest) = reported rest :=
  rfl

/-- Reports lead from one stage of a watch to another. -/
def Leads (stage : WatchStage) (reports : List (WatcherReport α)) (next : WatchStage) : Prop :=
  stage.after? (reported reports) = some next

section Leads

variable {stage next last : WatchStage} {reports later : List (WatcherReport α)}

theorem Leads.nil (stage : WatchStage) : Leads stage ([] : List (WatcherReport α)) stage :=
  rfl

theorem Leads.append (h : Leads stage reports next) (hlater : Leads next later last) :
    Leads stage (reports ++ later) last := by
  rw [Leads, reported, List.filterMap_append, WatchStage.after?_append]
  exact Option.bind_eq_some_iff.mpr ⟨next, h, hlater⟩

theorem Leads.ok {e : ObjectEvent α} (hnext : stage.next? e = some next)
    (h : Leads next reports last) : Leads stage (.ok e :: reports) last :=
  Option.bind_eq_some_iff.mpr ⟨next, hnext, h⟩

theorem Leads.error (e : WatcherError) (h : Leads stage reports next) :
    Leads stage (.error e :: reports) next :=
  h

end Leads

/-- What a stream brings are happenings. -/
theorem leads_followStream (lines : List (Line α)) :
    Leads .following (followStream lines).1 .following := by
  induction lines with
  | nil => exact .nil _
  | cons line rest ih =>
      cases line with
      | applied a | deleted a =>
          cases hversion : a.version with
          | none => simpa [followStream, hversion] using Leads.error _ (.nil _)
          | some version => simpa [followStream, hversion] using Leads.ok rfl ih
      | bookmark => exact ih
      | report refusal =>
          by_cases hcode : refusal.code = 410
          · simpa [followStream, hcode] using Leads.error _ (.nil _)
          · simpa [followStream, hcode] using ih.error _
      | fault e => exact ih.error _

/-- So do the watch requests after a listing, however often the connection is opened again. -/
theorem leads_followWatches (replies : List WatchReply) :
    Leads .following (followWatches d replies).1.reports .following := by
  induction replies with
  | nil => exact .nil _
  | cons reply rest ih =>
      cases reply with
      | stream lines closes =>
          simp only [followWatches]
          split
          · exact leads_followStream _
          · split
            · exact (leads_followStream _).append ih
            · exact leads_followStream _
      | refused r =>
          simp only [followWatches]
          split
          · exact leads_followStream _
          · exact (leads_followStream _).append ih

/-- The objects of a page are listed. -/
theorem leads_listed (objects : List (Versioned α)) :
    Leads .listing (objects.map fun a => .ok (.listed a.object)) .listing := by
  induction objects with
  | nil => exact .nil _
  | cons a rest ih => exact .ok rfl ih

/-- Once a page was asked for, a listing is under way. -/
theorem leads_opened {begins : Bool} {stage : WatchStage}
    (hstage : begins = false → stage = .listing) :
    Leads stage (if begins then [.ok .listing] else [] : List (WatcherReport α)) .listing := by
  cases begins with
  | true => exact .ok (by cases stage <;> rfl) (.nil _)
  | false => exact hstage rfl ▸ .nil _

/-- Sessions lead on from where a listing begins, and from the middle of one. -/
theorem leads_followFrom (begins : Bool) {stage : WatchStage}
    (hstage : begins = false → stage = .listing) (sessions : List Session) :
    ∃ last, Leads stage (followFrom d begins sessions).reports last := by
  induction sessions generalizing begins stage with
  | nil => exact ⟨_, leads_opened hstage⟩
  | cons session rest ih =>
      have hopened := leads_opened (α := α) hstage
      have hanew : ∀ stage, ∃ last, Leads stage (followFrom d true rest).reports last :=
        fun _ => ih true nofun
      obtain ⟨last, hlast⟩ := hanew .listing
      unfold followFrom
      dsimp only
      split
      · exact ⟨last, (hopened.append ((Leads.nil _).error _)).append hlast⟩
      · rename_i page hpage
        split
        · exact ⟨last, (hopened.append ((Leads.nil _).error _)).append hlast⟩
        · have hlisted := hopened.append (leads_listed page.objects)
          split
          · obtain ⟨last, hlast⟩ := ih false fun _ => rfl
            exact ⟨last, hlisted.append hlast⟩
          · have hdone : Leads .listing ([.ok .listingDone] : List (WatcherReport α)) .following :=
              .ok rfl (.nil _)
            have hwatched := (hlisted.append hdone).append
              (leads_followWatches (d := d) session.watches)
            split
            · obtain ⟨last, hlast⟩ := hanew .following
              exact ⟨last, hwatched.append hlast⟩
            · exact ⟨.following, hwatched⟩

/-- Whatever the cluster sends leads from one stage of a watch to another. -/
theorem leads_follow (d : Json.Decoder (Versioned α)) (sessions : List Session) :
    ∃ last, Leads .unopened (follow d sessions).reports last :=
  leads_followFrom true nofun sessions

/-- Whatever the cluster sends, a watch reports in order. -/
theorem follow_comesInOrder (d : Json.Decoder (Versioned α)) (sessions : List Session) :
    ComesInOrder (reported (follow d sessions).reports) := by
  obtain ⟨last, hlast⟩ := leads_follow d sessions
  exact Option.isSome_iff_exists.mpr ⟨last, hlast⟩

/-! ## What is passed on -/

/-- The change that an item brings. -/
def changeIn? : ResourceItem → Option Change
  | .change c => some c
  | .error _ | .ended => none

/-- The items that are passed on bring the changes of what is reported, errors aside. -/
@[simp]
theorem filterMap_changesFrom (p : Presence) (reports : List (WatcherReport Deployment)) :
    (changesFrom p reports).filterMap changeIn? = (p.reactAll (reported reports)).2 := by
  induction reports generalizing p with
  | nil => rfl
  | cons report rest ih =>
      cases report with
      | error e => exact ih p
      | ok e =>
          have hchange : ∀ change : Option Change,
              (change.toList.map ResourceItem.change).filterMap changeIn? = change.toList := by
            intro change
            cases change <;> rfl
          simp only [changesFrom, List.filterMap_append, hchange, ih, reported_ok,
            Presence.reactAll]

/-- An observer fetches a deployment and is then given the items of a watch.  Whatever the cluster
sends, he holds what the store of the watch holds when the watch follows what happens. -/
theorem watchDeployment_keeps_up (target : Target) (fetched : Deployment)
    (sessions : List Session) :
    ∃ last, Leads .unopened (follow versionedDeployment sessions).reports last ∧
      (last = .following →
        observed (some fetched) ((watchDeployment target sessions).result.filterMap changeIn?) =
          (Store.empty.takeAll (reported (follow versionedDeployment sessions).reports)).held) := by
  obtain ⟨last, hlast⟩ := leads_follow versionedDeployment sessions
  refine ⟨last, hlast, fun hfollowing => ?_⟩
  rw [watchDeployment, filterMap_changesFrom]
  exact (Presence.reactAll_tracks (Presence.tracks_start target fetched) hlast).held hfollowing

end Api
end ProvisionWatch

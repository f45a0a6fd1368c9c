import Mathlib.Data.List.Chain
import Mathlib.Data.List.Induction
import ProvisionWatch.Api.Presence

/-!
# How changes are labelled

Reports about a collection do not say whether a deployment is new, and where a listing
fails to show it they do not even say that it was deleted.  Both are made up for by what
was passed on before.  A deployment is new if none was shown since the last deletion that
was passed on.  A listing without it means a deletion if there is something to be deleted:
a deployment that was shown, or the one that was fetched in the beginning.

This holds for reports in any order, also where listings are cut off, or end without
having begun.  Only a reported deletion is passed on without asking, so two deletions
follow each other exactly if a deletion is reported of what was gone already.

Main results:

- Theorem `react_cases`: what a report comes to.
- Theorem `react_recounts`: one report keeps what is known in agreement with the
  reports and with what was made of them.
- Theorem `changes_labelled`: how changes are labelled, and when two deletions follow each
  other.
-/

namespace ProvisionWatch
namespace Api

/-! ## Since when -/

/-- Something happened in a list, at some place behind a beginning, and since then only such
things. -/
def Since {α : Type} (happened : List α → α → Prop) (only : α → Prop) (l : List α) : Prop :=
  ∃ before x after, l = before ++ x :: after ∧ happened before x ∧ ∀ y ∈ after, only y

@[simp]
theorem not_since_nil {α : Type} (happened : List α → α → Prop) (only : α → Prop) :
    ¬ Since happened only [] := by
  rintro ⟨before, x, after, h, -⟩
  exact List.append_ne_nil_of_right_ne_nil before (List.cons_ne_nil x after) h.symm

/-- It happened just now, or it had happened before and nothing else happens now. -/
@[simp]
theorem since_concat_iff {α : Type} {happened : List α → α → Prop} {only : α → Prop} {l : List α}
    {y : α} :
    Since happened only (l ++ [y]) ↔ happened l y ∨ (only y ∧ Since happened only l) := by
  constructor
  · rintro ⟨before, x, after, hl, hx, hafter⟩
    rcases List.eq_nil_or_concat after with rfl | ⟨after, z, rfl⟩
    · obtain ⟨rfl, hy⟩ := List.append_inj' hl rfl
      obtain rfl := List.singleton_inj.mp hy
      exact .inl hx
    · have hsplit : l ++ [y] = (before ++ x :: after) ++ [z] := by
        rw [hl]
        simp
      obtain ⟨rfl, hy⟩ := List.append_inj' hsplit rfl
      obtain rfl := List.singleton_inj.mp hy
      exact .inr ⟨hafter y (by simp), before, x, after, rfl, hx,
        fun w hw => hafter w (by simp [hw])⟩
  · rintro (hy | ⟨hy, before, x, after, rfl, hx, hafter⟩)
    · exact ⟨l, y, [], rfl, hy, by simp⟩
    · refine ⟨before, x, after ++ [y], by simp, hx, fun w hw => ?_⟩
      rcases List.mem_append.mp hw with hw | hw
      · exact hafter w hw
      · exact List.mem_singleton.mp hw ▸ hy

/-! ## What reports say -/

namespace ObjectEvent

/-- What a report shows to be there. -/
def shows? {α : Type} : ObjectEvent α → Option α
  | .listed d | .applied d => some d
  | .listing | .listingDone | .deleted _ => none

end ObjectEvent

/-- The listing that was begun last, or what was listed before any, has shown something. -/
def ShownByListing {α : Type} (reports : List (ObjectEvent α)) : Prop :=
  Since (fun _ e => ∃ d, e = .listed d) (fun e => e ≠ .listing) reports

/-- What was there is gone, as far as the reports say: its deletion was reported, or a listing was
done without it, and nothing was shown since. -/
def Gone {α : Type} (reports : List (ObjectEvent α)) : Prop :=
  Since (fun before e => (∃ d, e = .deleted d) ∨ (e = .listingDone ∧ ¬ ShownByListing before))
    (fun e => e.shows? = none) reports

/-- Deletions are only reported of what is there: of what was shown, or was there in the beginning,
and is not gone since. -/
def DeletesWhatIsThere {α : Type} (reports : List (ObjectEvent α)) : Prop :=
  ∀ before d after, reports = before ++ .deleted d :: after → ¬ Gone before

@[simp]
theorem shownByListing_concat_iff {α : Type} {reports : List (ObjectEvent α)} {e : ObjectEvent α} :
    ShownByListing (reports ++ [e]) ↔
      (∃ d, e = .listed d) ∨ (e ≠ .listing ∧ ShownByListing reports) :=
  since_concat_iff

@[simp]
theorem gone_concat_iff {α : Type} {reports : List (ObjectEvent α)} {e : ObjectEvent α} :
    Gone (reports ++ [e]) ↔
      ((∃ d, e = .deleted d) ∨ (e = .listingDone ∧ ¬ ShownByListing reports)) ∨
        (e.shows? = none ∧ Gone reports) :=
  since_concat_iff

theorem deletesWhatIsThere_iff {α : Type} {reports : List (ObjectEvent α)} :
    DeletesWhatIsThere reports ↔
      ¬ Since (fun before e => (∃ d, e = .deleted d) ∧ Gone before) (fun _ => True) reports := by
  constructor
  · rintro h ⟨before, e, after, hreports, ⟨⟨d, rfl⟩, hgone⟩, -⟩
    exact h before d after hreports hgone
  · intro h before d after hreports hgone
    exact h ⟨before, .deleted d, after, hreports, ⟨⟨d, rfl⟩, hgone⟩, fun _ _ => trivial⟩

@[simp]
theorem deletesWhatIsThere_concat_iff {α : Type} {reports : List (ObjectEvent α)}
    {e : ObjectEvent α} :
    DeletesWhatIsThere (reports ++ [e]) ↔
      ¬ ((∃ d, e = .deleted d) ∧ Gone reports) ∧ DeletesWhatIsThere reports := by
  rw [deletesWhatIsThere_iff, deletesWhatIsThere_iff, since_concat_iff, not_or, true_and]

namespace Presence

/-! ## What reports come to -/

/-- A report, and the change that it was turned into. -/
structure Entry where
  report : ObjectEvent Deployment
  change : Option Change

/-- Whether a deletion was passed on. -/
def Entry.tellsDeletion (entry : Entry) : Bool :=
  entry.change.any fun c => c.kind == .deleted

/-- Reports in order, each with the change that it is turned into. -/
def record (p : Presence) : List (ObjectEvent Deployment) → List Entry
  | [] => []
  | e :: rest => { report := e, change := (p.react e).2 } :: (p.react e).1.record rest

/-- A deployment was shown since the last deletion that was passed on, or at all if there was
none. -/
def ShownSinceDeletion (entries : List Entry) : Prop :=
  Since (fun _ entry => entry.report.shows?.isSome = true)
    (fun entry => entry.tellsDeletion = false) entries

/-- No deletion was passed on since the beginning. -/
def NothingDeleted (entries : List Entry) : Prop :=
  ∀ entry ∈ entries, entry.tellsDeletion = false

/-- Not both changes are deletions. -/
def Alternate (c c' : Change) : Prop :=
  ¬ (c.kind = .deleted ∧ c'.kind = .deleted)

@[simp]
theorem shownSinceDeletion_concat_iff {entries : List Entry} {entry : Entry} :
    ShownSinceDeletion (entries ++ [entry]) ↔
      entry.report.shows?.isSome = true ∨
        (entry.tellsDeletion = false ∧ ShownSinceDeletion entries) :=
  since_concat_iff

@[simp]
theorem nothingDeleted_concat_iff {entries : List Entry} {entry : Entry} :
    NothingDeleted (entries ++ [entry]) ↔
      NothingDeleted entries ∧ entry.tellsDeletion = false := by
  simp only [NothingDeleted, List.mem_append, List.mem_singleton, or_imp, forall_and,
    forall_eq]

/-- One more change alternates with the last one. -/
@[simp]
theorem isChain_alternate_concat_iff {changes : List Change} {c : Change} :
    (changes ++ [c]).IsChain Alternate ↔
      changes.IsChain Alternate ∧ ∀ last ∈ changes.getLast?, Alternate last c := by
  rw [List.isChain_append]
  simp

theorem reactAll_concat (p : Presence) (reports : List (ObjectEvent Deployment))
    (e : ObjectEvent Deployment) :
    p.reactAll (reports ++ [e]) =
      (((p.reactAll reports).1.react e).1,
        (p.reactAll reports).2 ++ ((p.reactAll reports).1.react e).2.toList) := by
  induction reports generalizing p with
  | nil => simp [reactAll]
  | cons first rest ih => simp [reactAll, ih]

theorem record_concat (p : Presence) (reports : List (ObjectEvent Deployment))
    (e : ObjectEvent Deployment) :
    p.record (reports ++ [e]) =
      p.record reports ++ [⟨e, ((p.reactAll reports).1.react e).2⟩] := by
  induction reports generalizing p with
  | nil => rfl
  | cons first rest ih => simp [record, reactAll, ih]

/-- What a report comes to: a deployment is shown, or one is gone, or nothing is passed on. -/
inductive Outcome (p : Presence) (e : ObjectEvent Deployment) (next : Presence) :
    Option Change → Prop where
  | shown (d : Deployment) (shows : e.shows? = some d) (last : next.last = some d)
      (present : next.present = true) :
      Outcome p e next
        (some { deployment := d, kind := if p.last.isSome then .modified else .added })
  | gone (d : Deployment)
      (how : e = .deleted d ∨
        (e = .listingDone ∧ p.listed = false ∧ p.present = true ∧ d = p.remembered))
      (last : next.last = none) (present : next.present = false) :
      Outcome p e next (some { deployment := d, kind := .deleted })
  | silent (how : e = .listing ∨ (e = .listingDone ∧ (p.listed = true ∨ p.present = false)))
      (last : next.last = p.last) (present : next.present = p.present) : Outcome p e next none

theorem react_cases (p : Presence) (e : ObjectEvent Deployment) :
    Outcome p e (p.react e).1 (p.react e).2 := by
  cases e with
  | listing => exact .silent (.inl rfl) rfl rfl
  | listed d => exact .shown d rfl rfl rfl
  | applied d => exact .shown d rfl rfl rfl
  | deleted d => exact .gone d (.inl rfl) rfl rfl
  | listingDone =>
      rw [react]
      split
      · rename_i h
        rw [Bool.or_eq_true, Bool.not_eq_true'] at h
        exact .silent (.inr ⟨rfl, h⟩) rfl rfl
      · rename_i h
        rw [Bool.or_eq_true, Bool.not_eq_true', not_or, Bool.not_eq_true, Bool.not_eq_false] at h
        exact .gone p.remembered (.inr ⟨rfl, h.1, h.2, rfl⟩) rfl rfl

@[simp]
theorem target_react (p : Presence) (e : ObjectEvent Deployment) :
    (p.react e).1.target = p.target := by
  cases e with
  | listing | listed | applied | deleted => rfl
  | listingDone =>
      rw [react]
      split <;> rfl

/-- What the listing at hand has shown is told by its reports. -/
theorem listed_react {p : Presence} {reports : List (ObjectEvent Deployment)}
    (h : p.listed = true ↔ ShownByListing reports) (e : ObjectEvent Deployment) :
    (p.react e).1.listed = true ↔ ShownByListing (reports ++ [e]) := by
  rw [shownByListing_concat_iff, ← h]
  cases e with
  | listing => simp [react]
  | listed d => simp [react, see]
  | applied d => simp [react, see]
  | deleted d => simp [react]
  | listingDone =>
      have hsame : (p.react .listingDone).1.listed = p.listed := by
        rw [react]
        split <;> rfl
      simp [hsame]

/-! ## What is known -/

/-- What is known of a deployment agrees with the reports, with what was recorded of them, and with
the changes that were passed on. -/
structure Recounts (p : Presence) (reports : List (ObjectEvent Deployment)) (entries : List Entry)
    (changes : List Change) : Prop where
  listed : p.listed = true ↔ ShownByListing reports
  last : p.last = if p.present then (reports.filterMap ObjectEvent.shows?).getLast? else none
  shown : p.last.isSome = true ↔ ShownSinceDeletion entries
  present : p.present = true ↔ ShownSinceDeletion entries ∨ NothingDeleted entries
  gone : p.present = false ↔ Gone reports
  said : p.present = false ↔ ∃ c ∈ changes.getLast?, c.kind = .deleted
  alternate : changes.IsChain Alternate ↔ DeletesWhatIsThere reports

theorem recounts_start (target : Target) : Recounts (.start target) [] [] [] where
  listed := by simp [start, ShownByListing]
  last := rfl
  shown := by simp [start, ShownSinceDeletion]
  present := by simp [start, NothingDeleted]
  gone := by simp [start, Gone]
  said := by simp [start]
  alternate := by simp [deletesWhatIsThere_iff]

variable {p next : Presence} {reports : List (ObjectEvent Deployment)} {entries : List Entry}
  {changes : List Change} {e : ObjectEvent Deployment}

theorem Recounts.shown_next (h : Recounts p reports entries changes)
    (hlisted : next.listed = true ↔ ShownByListing (reports ++ [e])) {d : Deployment}
    (hshows : e.shows? = some d) (hlast : next.last = some d) (hpresent : next.present = true)
    {change : Change} (hkind : change.kind ≠ .deleted) :
    Recounts next (reports ++ [e]) (entries ++ [⟨e, some change⟩]) (changes ++ [change]) := by
  have hdeleted : ∀ d, e ≠ .deleted d := by
    rintro d rfl
    cases hshows
  have hdone : e ≠ .listingDone := by
    rintro rfl
    cases hshows
  refine ⟨hlisted, ?_, ?_, ?_, ?_, ?_, ?_⟩
  · simp [hlast, hpresent, hshows]
  · simp [hlast, hshows]
  · simp [hpresent, hshows]
  · simp [hpresent, hshows, hdeleted, hdone]
  · simp [hpresent, hkind]
  · simp [Alternate, hkind, hdeleted, h.alternate]

theorem Recounts.gone_next (h : Recounts p reports entries changes)
    (hlisted : next.listed = true ↔ ShownByListing (reports ++ [e])) {d : Deployment}
    (how : e = .deleted d ∨
      (e = .listingDone ∧ p.listed = false ∧ p.present = true ∧ d = p.remembered))
    (hlast : next.last = none) (hpresent : next.present = false) {change : Change}
    (hkind : change.kind = .deleted) :
    Recounts next (reports ++ [e]) (entries ++ [⟨e, some change⟩]) (changes ++ [change]) := by
  have hshows : e.shows? = none := by
    rcases how with rfl | ⟨rfl, -⟩ <;> rfl
  have halternate : (∀ last ∈ changes.getLast?, Alternate last change) ↔ ¬ Gone reports := by
    rw [← h.gone, h.said]
    simp [Alternate, hkind]
  refine ⟨hlisted, ?_, ?_, ?_, ?_, ?_, ?_⟩
  · simp [hlast, hpresent]
  · simp [hlast, hshows, Entry.tellsDeletion, hkind]
  · simp [hpresent, hshows, Entry.tellsDeletion, hkind]
  · rw [gone_concat_iff]
    refine iff_of_true hpresent (.inl ?_)
    rcases how with rfl | ⟨rfl, hunlisted, -, -⟩
    · exact .inl ⟨d, rfl⟩
    · rw [← h.listed, hunlisted]
      exact .inr ⟨rfl, Bool.false_ne_true⟩
  · simp [hpresent, hkind]
  · rw [isChain_alternate_concat_iff, deletesWhatIsThere_concat_iff, h.alternate, halternate,
      and_comm]
    refine and_congr_left fun _ => not_congr ?_
    rcases how with rfl | ⟨rfl, -, hthere, -⟩
    · exact (and_iff_right ⟨d, rfl⟩).symm
    · -- What is there can be found missing only once, whatever was reported.
      rw [← h.gone, hthere]
      simp

theorem Recounts.silent_next (h : Recounts p reports entries changes)
    (hlisted : next.listed = true ↔ ShownByListing (reports ++ [e]))
    (how : e = .listing ∨ (e = .listingDone ∧ (p.listed = true ∨ p.present = false)))
    (hlast : next.last = p.last) (hpresent : next.present = p.present) :
    Recounts next (reports ++ [e]) (entries ++ [⟨e, none⟩]) changes := by
  have hshows : e.shows? = none := by
    rcases how with rfl | ⟨rfl, -⟩ <;> rfl
  have hdeleted : ∀ d, e ≠ .deleted d := by
    rintro d rfl
    rcases how with how | ⟨how, -⟩ <;> cases how
  refine ⟨hlisted, ?_, ?_, ?_, ?_, ?_, ?_⟩
  · rw [hlast, hpresent, h.last]
    simp [hshows]
  · simp [hlast, hshows, Entry.tellsDeletion, h.shown]
  · simp [hpresent, hshows, Entry.tellsDeletion, h.present]
  · rw [hpresent, gone_concat_iff, h.gone]
    refine ⟨fun hgone => .inr ⟨hshows, hgone⟩, ?_⟩
    rintro ((⟨d, hd⟩ | ⟨rfl, hunlisted⟩) | ⟨-, hgone⟩)
    · exact absurd hd (hdeleted d)
    · rcases how with how | ⟨-, hshown | hgone⟩
      · cases how
      · exact absurd (h.listed.mp hshown) hunlisted
      · exact h.gone.mp hgone
    · exact hgone
  · rw [hpresent]
    exact h.said
  · rw [h.alternate, deletesWhatIsThere_concat_iff]
    simp [hdeleted]

/-- One report keeps what is known in agreement. -/
theorem react_recounts (h : Recounts p reports entries changes) (e : ObjectEvent Deployment) :
    Recounts (p.react e).1 (reports ++ [e]) (entries ++ [⟨e, (p.react e).2⟩])
      (changes ++ (p.react e).2.toList) := by
  have hlisted := listed_react h.listed e
  have hcases := react_cases p e
  generalize (p.react e).1 = next at hlisted hcases ⊢
  generalize (p.react e).2 = change at hcases ⊢
  cases hcases with
  | shown d shows last present =>
      refine h.shown_next hlisted shows last present ?_
      dsimp only
      split <;> decide
  | gone d how last present => exact h.gone_next hlisted how last present rfl
  | silent how last present =>
      rw [Option.toList_none, List.append_nil]
      exact h.silent_next hlisted how last present

/-- Reports in order keep it in agreement. -/
theorem reactAll_recounts (target : Target) (reports : List (ObjectEvent Deployment)) :
    Recounts ((start target).reactAll reports).1 reports ((start target).record reports)
      ((start target).reactAll reports).2 := by
  induction reports using List.reverseRecOn with
  | nil => exact recounts_start target
  | append_singleton reports e ih =>
      rw [reactAll_concat, record_concat]
      exact react_recounts ih e

@[simp]
theorem target_reactAll (p : Presence) (reports : List (ObjectEvent Deployment)) :
    (p.reactAll reports).1.target = p.target := by
  induction reports generalizing p with
  | nil => rfl
  | cons e rest ih => exact (ih _).trans (target_react p e)

/-! ## Labels and deletions -/

/-- A deployment that is shown is new exactly if none was shown since the last deletion. -/
theorem change_of_shows (h : Recounts p reports entries changes) {d : Deployment}
    (hshows : e.shows? = some d) :
    ∃ kind, (p.react e).2 = some { deployment := d, kind := kind } ∧
      (kind = .added ↔ ¬ ShownSinceDeletion entries) ∧
      (kind = .modified ↔ ShownSinceDeletion entries) := by
  have hreact : (p.react e).2 =
      some { deployment := d, kind := if p.last.isSome then .modified else .added } := by
    cases e with
    | listed | applied =>
        obtain rfl := Option.some.inj hshows
        rfl
    | listing | listingDone | deleted => cases hshows
  refine ⟨_, hreact, ?_, ?_⟩
  · rw [← h.shown]
    cases p.last.isSome <;> simp
  · rw [← h.shown]
    cases p.last.isSome <;> simp

/-- The end of a listing tells a deletion exactly if the listing has shown nothing and there is
something to be deleted: what was shown last, or what was fetched in the beginning. -/
theorem change_of_listingDone (h : Recounts p reports entries changes) {change : Change} :
    (p.react .listingDone).2 = some change ↔
      ¬ ShownByListing reports ∧ (ShownSinceDeletion entries ∨ NothingDeleted entries) ∧
      change = { deployment := (reports.filterMap ObjectEvent.shows?).getLast?.getD
                  (Deployment.named p.target.ns p.target.name)
                 kind := .deleted } := by
  rw [← h.listed, ← h.present, react]
  cases hlisted : p.listed with
  | true => simp
  | false =>
      cases hpresent : p.present with
      | false => simp
      | true =>
          have hlast : p.last = (reports.filterMap ObjectEvent.shows?).getLast? := by
            rw [h.last, if_pos hpresent]
          simp [remembered, hlast, eq_comm]

/-- Whatever was reported about a deployment that was fetched before, and in whatever order: one
that is shown is labelled as added exactly if none was shown since the last deletion that was
passed on, and as modified otherwise.  The end of a listing is passed on as a deletion exactly
if the listing has shown nothing, and something was shown since the last deletion or there was
no deletion yet; it carries what was shown last, or else just the watched name and namespace.
And two deletions are passed on without a deployment between them exactly if some deletion was
reported of what was gone already. -/
theorem changes_labelled (target : Target) (reports : List (ObjectEvent Deployment)) :
    let p := ((start target).reactAll reports).1
    let entries := (start target).record reports
    let lastShown := (reports.filterMap ObjectEvent.shows?).getLast?
    let placeholder := Deployment.named target.ns target.name
    (∀ d, ∀ e ∈ [ObjectEvent.listed d, .applied d],
      ∃ kind, (p.react e).2 = some { deployment := d, kind := kind } ∧
        (kind = .added ↔ ¬ ShownSinceDeletion entries) ∧
        (kind = .modified ↔ ShownSinceDeletion entries)) ∧
    (∀ change, (p.react .listingDone).2 = some change ↔
      ¬ ShownByListing reports ∧ (ShownSinceDeletion entries ∨ NothingDeleted entries) ∧
        change = { deployment := lastShown.getD placeholder, kind := .deleted }) ∧
    (placeholder.metadata.name = some target.name ∧ placeholder.metadata.ns = some target.ns) ∧
    (((start target).reactAll reports).2.IsChain Alternate ↔ DeletesWhatIsThere reports) := by
  intro p entries lastShown placeholder
  have h : Recounts p reports entries ((start target).reactAll reports).2 :=
    reactAll_recounts target reports
  have htarget : p.target = target := target_reactAll (start target) reports
  refine ⟨fun d e he => ?_, fun change => ?_, ⟨rfl, rfl⟩, h.alternate⟩
  · have hshows : e.shows? = some d := by
      rcases List.mem_pair.mp he with rfl | rfl <;> rfl
    exact change_of_shows h hshows
  · rw [change_of_listingDone h, htarget]

/-- A listing is cut off after it has shown the deployment, and nothing is there anymore: the next
listing tells a deletion when it is done.  When the deployment comes back it is new, and then its
deletion is reported. -/
theorem changes_labelled_of_cut_off_listing :
    let d : Deployment :=
      { Deployment.named "ns" "a" with spec := { Spec.blank with template := "aws-1" } }
    let cutOff : List (ObjectEvent Deployment) := [.listing, .listed d, .listing]
    let gone := cutOff ++ [.listingDone]
    let p := ((start ⟨"ns", "a"⟩).reactAll cutOff).1
    let q := ((start ⟨"ns", "a"⟩).reactAll gone).1
    (p.react .listingDone).2 = some ⟨d, .deleted⟩ ∧
      (q.react (.applied d)).2 = some ⟨d, .added⟩ ∧
      ((start ⟨"ns", "a"⟩).reactAll (gone ++ [.applied d] ++ [.deleted d])).2.IsChain
        Alternate := by
  intro d cutOff gone p q
  obtain ⟨-, hdone, -, -⟩ := changes_labelled ⟨"ns", "a"⟩ cutOff
  obtain ⟨hlabel, -, -, -⟩ := changes_labelled ⟨"ns", "a"⟩ gone
  obtain ⟨-, -, -, halternate⟩ :=
    changes_labelled ⟨"ns", "a"⟩ (gone ++ [.applied d] ++ [.deleted d])
  have hunlisted : ¬ ShownByListing cutOff := by
    rw [show cutOff = [.listing, .listed d] ++ [.listing] from rfl, shownByListing_concat_iff]
    simp
  refine ⟨(hdone ⟨d, .deleted⟩).mpr ⟨hunlisted, .inr ?_, rfl⟩, ?_, halternate.mpr ?_⟩
  · simp [NothingDeleted, cutOff, record, react, see, start, Entry.tellsDeletion]
  · obtain ⟨kind, hreact, hadded, -⟩ := hlabel d (.applied d) (by simp)
    have hnew : ¬ ShownSinceDeletion ((start ⟨"ns", "a"⟩).record gone) := by
      rw [record_concat, shownSinceDeletion_concat_iff]
      simp [cutOff, reactAll, react, see, start, Entry.tellsDeletion, ObjectEvent.shows?]
    rw [hadded.mpr hnew] at hreact
    exact hreact
  · have hcalm : DeletesWhatIsThere gone := by
      rintro before d' after hsplit
      have hmem : ObjectEvent.deleted d' ∈ gone := hsplit ▸ by simp
      simp [gone, cutOff] at hmem
    rw [deletesWhatIsThere_concat_iff, deletesWhatIsThere_concat_iff, gone_concat_iff]
    simp [ObjectEvent.shows?, hcalm]

end Presence
end Api
end ProvisionWatch

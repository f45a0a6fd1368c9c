import Mathlib.Data.List.Infix
import ProvisionWatch.Scope

/-!
# Where scopes overlap

An event names its object and no owner of it, so the objects that are made for a
deployment are told by their names.  A name with a dash and more behind it can be that
of such an object, or that of another deployment with objects of its own.  This is all
that two scopes can have in common: their targets have the same name, or one name goes
on from the other with a dash, and then they share what is made for the longer one.

Main results:

- Theorem `GoesOn.comparable`: of two names that a third goes on from, one goes on from
  the other.
- Theorem `covers_iff`: which events are in a scope.
- Theorem `scopes_overlap`: which events are in two scopes.
-/

namespace ProvisionWatch

/-! ## Names that go on from others -/

/-- A name is another one with a dash and any text behind it. -/
def GoesOn (longer shorter : String) : Prop :=
  ∃ rest, longer = shorter ++ "-" ++ rest

theorem goesOn_iff_begins {longer shorter : String} :
    GoesOn longer shorter ↔ shorter.toList ++ ['-'] <+: longer.toList := by
  constructor
  · rintro ⟨rest, rfl⟩
    exact ⟨rest.toList, by simp⟩
  · rintro ⟨rest, hrest⟩
    refine ⟨String.ofList rest, String.toList_inj.mp ?_⟩
    rw [← hrest]
    simp

namespace GoesOn

theorem begins {longer shorter : String} (h : GoesOn longer shorter) :
    shorter.toList <+: longer.toList :=
  (List.prefix_append _ _).trans (goesOn_iff_begins.mp h)

theorem length_lt {longer shorter : String} (h : GoesOn longer shorter) :
    shorter.toList.length < longer.toList.length := by
  have hle := (goesOn_iff_begins.mp h).length_le
  rw [List.length_append, List.length_singleton] at hle
  exact hle

theorem irrefl (name : String) : ¬ GoesOn name name :=
  fun h => Nat.lt_irrefl _ h.length_lt

theorem trans {a b c : String} (h : GoesOn a b) (h' : GoesOn b c) : GoesOn a c :=
  goesOn_iff_begins.mpr ((goesOn_iff_begins.mp h').trans h.begins)

/-- Where a name goes on from two others, the longer of these goes on from the shorter. -/
theorem of_length_lt {name a b : String} (ha : GoesOn name a) (hb : GoesOn name b)
    (hlt : a.toList.length < b.toList.length) : GoesOn b a := by
  refine goesOn_iff_begins.mpr
    (List.prefix_of_prefix_length_le (goesOn_iff_begins.mp ha) hb.begins ?_)
  rw [List.length_append, List.length_singleton]
  exact hlt

/-- Of two names that a third goes on from, one goes on from the other, unless they are the same. -/
theorem comparable {name a b : String} (ha : GoesOn name a) (hb : GoesOn name b) :
    a = b ∨ GoesOn b a ∨ GoesOn a b := by
  rcases Nat.lt_trichotomy a.toList.length b.toList.length with hlt | heq | hgt
  · exact .inr (.inl (ha.of_length_lt hb hlt))
  · have hbegins := List.prefix_of_prefix_length_le ha.begins hb.begins heq.le
    exact .inl (String.toList_inj.mp (hbegins.eq_of_length heq))
  · exact .inr (.inr (hb.of_length_lt ha hgt))

/-- A name with something else than a dash behind it does not go on from that name. -/
theorem not_append {name rest : String} (hdash : rest.toList.head? ≠ some '-') :
    ¬ GoesOn (name ++ rest) name := by
  rintro ⟨more, hmore⟩
  have hrest : rest = "-" ++ more := by
    simpa [← String.toList_inj] using hmore
  rw [hrest] at hdash
  simp at hdash

end GoesOn

/-! ## Events of a scope -/

namespace Event

/-- An event does not say that its object is in another namespace. -/
def IsOpenTo (e : Event) (ns : String) : Prop :=
  e.involved.ns = none ∨ e.involved.ns = some "" ∨ e.involved.ns = some ns

theorem isOpenTo_iff {e : Event} {ns : String} :
    e.IsOpenTo ns ↔ (e.involved.ns.any fun place => place != "" && place != ns) = false := by
  cases hns : e.involved.ns with
  | none => simp [IsOpenTo, hns]
  | some place => simp [IsOpenTo, hns, Classical.or_iff_not_imp_left]

/-- Where an event is open to two namespaces, it names none, or they are the same. -/
theorem IsOpenTo.same {e : Event} {ns ns' : String} (h : e.IsOpenTo ns) (h' : e.IsOpenTo ns') :
    (e.involved.ns = none ∨ e.involved.ns = some "") ∨ ns = ns' := by
  rcases h with hnone | hblank | hns
  · exact .inl (.inl hnone)
  · exact .inl (.inr hblank)
  · rcases h' with hnone | hblank | hns'
    · exact .inl (.inl hnone)
    · exact .inl (.inr hblank)
    · exact .inr (Option.some.inj (hns.symm.trans hns'))

/-- The object of an event is of a kind that is made for a deployment. -/
def IsSubsidiary (e : Event) : Prop :=
  e.involved.kind ∈ Scope.subsidiaryKinds

/-- An event is about a deployment with some name, or about what is made for one. -/
def IsAbout (e : Event) (name : String) : Prop :=
  (e.involved.name = name ∧
      (e.involved.kind = "" ∨ e.involved.kind = Scope.deploymentKind ∨ e.IsSubsidiary)) ∨
    e.IsSubsidiary ∧ GoesOn e.involved.name name

/-- A name goes on from another one, and an event is about what is made for the longer one. -/
def IsShared (e : Event) (shorter longer : String) : Prop :=
  GoesOn longer shorter ∧ e.IsSubsidiary ∧
    (e.involved.name = longer ∨ GoesOn e.involved.name longer)

theorem IsShared.isAbout {e : Event} {shorter longer : String} (h : e.IsShared shorter longer) :
    e.IsAbout shorter ∧ e.IsAbout longer := by
  obtain ⟨hgoes, hkind, rfl | hname⟩ := h
  · exact ⟨.inr ⟨hkind, hgoes⟩, .inl ⟨rfl, .inr (.inr hkind)⟩⟩
  · exact ⟨.inr ⟨hkind, hname.trans hgoes⟩, .inr ⟨hkind, hname⟩⟩

/-- All that an event is about under two names is what is made for the longer one. -/
theorem isAbout_both_iff {e : Event} {a b : String} :
    e.IsAbout a ∧ e.IsAbout b ↔ (a = b ∧ e.IsAbout a) ∨ e.IsShared a b ∨ e.IsShared b a := by
  constructor
  · rintro ⟨ha, hb⟩
    rcases ha with ⟨rfl, hkind⟩ | ⟨hkind, hgoes⟩ <;> rcases hb with ⟨hname, -⟩ | ⟨hkind', hgoes'⟩
    · exact .inl ⟨hname, .inl ⟨rfl, hkind⟩⟩
    · exact .inr (.inr ⟨hgoes', hkind', .inl rfl⟩)
    · exact .inr (.inl ⟨hname ▸ hgoes, hkind, .inl hname⟩)
    · rcases hgoes.comparable hgoes' with rfl | hlonger | hlonger
      · exact .inl ⟨rfl, .inr ⟨hkind, hgoes⟩⟩
      · exact .inr (.inl ⟨hlonger, hkind, .inr hgoes'⟩)
      · exact .inr (.inr ⟨hlonger, hkind, .inr hgoes⟩)
  · rintro (⟨rfl, hboth⟩ | hshared | hshared)
    · exact ⟨hboth, hboth⟩
    · exact hshared.isAbout
    · exact hshared.isAbout.symm

end Event

namespace Scope

variable {s s' : Scope} {e : Event}

theorem isBehind_iff {name target : String} : isBehind name target = true ↔ GoesOn name target := by
  rw [isBehind, List.isPrefixOf_iff_prefix, goesOn_iff_begins]

/-- An event is in scope exactly if it is open to the namespace of the target and about its name. -/
theorem covers_iff :
    s.covers e = true ↔ e.IsOpenTo s.target.ns ∧ e.IsAbout s.target.name := by
  rw [covers, Event.isOpenTo_iff]
  split
  · rename_i helsewhere
    simp [helsewhere]
  · rename_i hopen
    rw [Bool.not_eq_true] at hopen
    rw [hopen, eq_self_iff_true, true_and, Event.IsAbout, Event.IsSubsidiary]
    split
    · rename_i hname
      simp [hname, GoesOn.irrefl, or_assoc]
    · rename_i hname
      simp [hname, isBehind_iff]

/-- Two scopes have exactly those events in common that are open to the namespaces of both targets
and are about the one name that these have, or about what is made for the longer name where one name
goes on from the other with a dash.  In particular, for any two targets, an event that is in both
scopes has no namespace or an empty one unless the namespaces of the targets are the same, and if
their names differ, it is about an object of a subsidiary kind that has the longer name or one that
goes on from it. So an event with a namespace is never in scope for two namespaces, and names one of
which only begins with the other share no event. -/
theorem scopes_overlap (s s' : Scope) (e : Event) :
    (s.covers e = true ∧ s'.covers e = true ↔
      (e.IsOpenTo s.target.ns ∧ e.IsOpenTo s'.target.ns) ∧
        ((s.target.name = s'.target.name ∧ e.IsAbout s.target.name) ∨
          e.IsShared s.target.name s'.target.name ∨ e.IsShared s'.target.name s.target.name)) ∧
    (s.target ≠ s'.target → s.covers e = true → s'.covers e = true →
      ((e.involved.ns = none ∨ e.involved.ns = some "") ∨ s.target.ns = s'.target.ns) ∧
        (s.target.name = s'.target.name ∨ e.IsShared s.target.name s'.target.name ∨
          e.IsShared s'.target.name s.target.name)) ∧
    (∀ ns, e.involved.ns = some ns → ns ≠ "" → s.target.ns ≠ s'.target.ns →
      ¬ (s.covers e = true ∧ s'.covers e = true)) ∧
    (∀ rest, s'.target.name = s.target.name ++ rest → rest ≠ "" → rest.toList.head? ≠ some '-' →
      ¬ (s.covers e = true ∧ s'.covers e = true)) := by
  have hboth : s.covers e = true ∧ s'.covers e = true ↔
      (e.IsOpenTo s.target.ns ∧ e.IsOpenTo s'.target.ns) ∧
        ((s.target.name = s'.target.name ∧ e.IsAbout s.target.name) ∨
          e.IsShared s.target.name s'.target.name ∨ e.IsShared s'.target.name s.target.name) := by
    rw [covers_iff, covers_iff, and_and_and_comm, Event.isAbout_both_iff]
  have hplaces : s.covers e = true → s'.covers e = true →
      (e.involved.ns = none ∨ e.involved.ns = some "") ∨ s.target.ns = s'.target.ns := by
    intro h h'
    obtain ⟨hopen, hopen'⟩ := (hboth.mp ⟨h, h'⟩).1
    exact hopen.same hopen'
  refine ⟨hboth, fun _ h h' => ⟨hplaces h h', ?_⟩, ?_, ?_⟩
  · exact (hboth.mp ⟨h, h'⟩).2.imp_left And.left
  · rintro ns hns hempty hapart ⟨h, h'⟩
    rcases hplaces h h' with (hnone | hblank) | hsame
    · simp [hns] at hnone
    · exact hempty (Option.some.inj (hns.symm.trans hblank))
    · exact hapart hsame
  · rintro rest hname hrest hdash hcovered
    rcases (hboth.mp hcovered).2 with ⟨hsame, -⟩ | hshared | hshared
    · rw [hname, ← String.toList_inj, String.toList_append, List.self_eq_append_right] at hsame
      exact hrest (String.toList_eq_nil_iff.mp hsame)
    · exact GoesOn.not_append hdash (hname ▸ hshared.1)
    · have hlt := hshared.1.length_lt
      rw [hname, String.toList_append, List.length_append] at hlt
      omega

/-- What is made for one deployment counts for another one whose name it goes on from, but not for
one whose name only has another digit. -/
theorem scopes_overlap_of_siblings :
    let scope (name : String) : Scope := .new ⟨"kcm-system", name⟩ Rule.standard .standard
    let e : Event :=
      ⟨⟨"ServiceSet", "prod-eu-1-b-x7k2", some "kcm-system"⟩, "ServiceInstalling", "", "Normal",
        none, none, none⟩
    (scope "prod-eu-1").covers e = true ∧ (scope "prod-eu-1-b").covers e = true ∧
      e.IsShared "prod-eu-1" "prod-eu-1-b" ∧
      ∀ e, ¬ ((scope "prod-eu-1").covers e = true ∧ (scope "prod-eu-10").covers e = true) := by
  intro scope e
  have hshort : (scope "prod-eu-1").covers e = true := by decide +kernel
  have hlong : (scope "prod-eu-1-b").covers e = true := by decide +kernel
  obtain ⟨-, hsame | hshared | hshared⟩ :=
    (scopes_overlap (scope "prod-eu-1") (scope "prod-eu-1-b") e).2.1 (by decide) hshort hlong
  · exact absurd hsame (by decide)
  · refine ⟨hshort, hlong, hshared, fun e => ?_⟩
    exact (scopes_overlap (scope "prod-eu-1") (scope "prod-eu-10") e).2.2.2 "0" rfl (by decide)
      (by decide)
  · exact absurd hshared.1.length_lt (by decide)

end Scope
end ProvisionWatch

import ProvisionWatch.Proofs.Target.Grammar

/-!
# Reading what was written

A request that was read can be written and read again.  The slashes around a path are
taken away after the blanks, so that blanks behind them stay in the target; when the
target is written they stand at the ends of the text, and the next reading drops them.

Main results:

- Theorem `Target.text_inj`: a target is told by how it is written.
- Theorem `Request.read_text_of_read`: a written request is read as the tidied one.
- Theorem `Request.rereading_law`: what reading again changes, and what it does not.
-/

namespace ProvisionWatch

open Text (NotBefore NotBehind isBlank)

namespace Target

/-- The slash in a target as it is written tells where the namespace ends. -/
theorem text_inj {a b : Target} (ha : a.Sound) (hb : b.Sound) (h : a.text = b.text) : a = b := by
  have hcut : ∀ t : Target, t.Sound →
      Text.cut '/' t.text.toList = some (t.ns.toList, t.name.toList) := fun t ht =>
    (Text.cut_eq_some_iff _ _ _ _).mpr ⟨toList_text t, ht.ns_whole⟩
  have hparts := (hcut a ha).symm.trans (h ▸ hcut b hb)
  obtain ⟨hns, hname⟩ := Prod.mk.inj (Option.some.inj hparts)
  obtain ⟨ns, name⟩ := a
  exact congrArg₂ mk (String.toList_inj.mp hns) (String.toList_inj.mp hname)

theorem tidied_tidied (t : Target) : t.tidied.tidied = t.tidied := by
  rw [tidied_eq_self_iff, toList_tidied_ns, toList_tidied_name]
  exact ⟨Text.notBefore_dropWhile isBlank _, Text.notBehind_dropEndWhile isBlank _⟩

end Target

namespace Request

variable {raw : String} {r : Request}

theorem tidied_tidied (r : Request) : r.tidied.tidied = r.tidied := by
  rw [tidied, tidied, Target.tidied_tidied]

theorem tidied_eq_self_iff :
    r.tidied = r ↔
      NotBefore isBlank r.target.ns.toList ∧ NotBehind isBlank r.target.name.toList := by
  rw [← Target.tidied_eq_self_iff]
  exact ⟨congrArg Request.target, fun h => by rw [tidied, h]⟩

/-- A request that was read is read as the tidied request once it is written. -/
theorem read_text_of_read (h : read raw = .ok r) : read r.text = .ok r.tidied := by
  have hspelled := read_eq_ok_iff.mp h
  exact read_eq_ok_iff.mpr
    (spelledBy_text hspelled.target_sound hspelled.no_question hspelled.inRange)

/-- Once it is written, a request that was read is accepted again.  It comes back as it was exactly
if no blank stands in front of its namespace or behind its name; these blanks are all that is lost,
and nothing is lost after that.  Two requests whose targets are written alike have the same target.
-/
theorem rereading_law (h : read raw = .ok r) :
    read r.text = .ok r.tidied ∧
      (read r.text = .ok r ↔
        NotBefore isBlank r.target.ns.toList ∧ NotBehind isBlank r.target.name.toList) ∧
      read r.tidied.text = .ok r.tidied ∧
      ∀ (raw' : String) (r' : Request), read raw' = .ok r' →
        r'.target.text = r.target.text → r'.target = r.target := by
  have hagain := read_text_of_read h
  have hstable := read_text_of_read hagain
  rw [tidied_tidied] at hstable
  refine ⟨hagain, ?_, hstable, ?_⟩
  · rw [hagain, Except.ok.injEq, tidied_eq_self_iff]
  · intro raw' r' h' htext
    exact Target.text_inj (read_eq_ok_iff.mp h').target_sound (read_eq_ok_iff.mp h).target_sound
      htext

/-- Blanks between the slashes around a path and the target are kept once, and then lost. -/
theorem rereading_law_of_blanks_behind_slashes :
    read "/ a/b /?timeout=60" = .ok ⟨⟨" a", "b "⟩, some (.ofSeconds 60)⟩ ∧
      read " a/b ?timeout=60" = .ok ⟨⟨"a", "b"⟩, some (.ofSeconds 60)⟩ := by
  have hread : read "/ a/b /?timeout=60" = .ok ⟨⟨" a", "b "⟩, some (.ofSeconds 60)⟩ := by
    decide +kernel
  have htext : text ⟨⟨" a", "b "⟩, some (.ofSeconds 60)⟩ = " a/b ?timeout=60" := by decide +kernel
  have htidied :
      tidied ⟨⟨" a", "b "⟩, some (.ofSeconds 60)⟩ = ⟨⟨"a", "b"⟩, some (.ofSeconds 60)⟩ := by
    decide +kernel
  exact ⟨hread, htext ▸ htidied ▸ (rereading_law hread).1⟩

/-- A text is accepted, and the request it stands for is read as another one once it is written. -/
theorem written_request_misread :
    read "/ a/b" = .ok ⟨⟨" a", "b"⟩, none⟩ ∧
      text ⟨⟨" a", "b"⟩, none⟩ = " a/b" ∧ read " a/b" = .ok ⟨⟨"a", "b"⟩, none⟩ ∧
      (⟨⟨" a", "b"⟩, none⟩ : Request) ≠ ⟨⟨"a", "b"⟩, none⟩ := by
  decide +kernel

end Request
end ProvisionWatch

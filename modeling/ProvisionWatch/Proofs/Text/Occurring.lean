import ProvisionWatch.Text.Split

/-!
# Where a text occurs

A text occurs in another one if it is a stretch of it.  A text without some
character cannot occur across that character: it occurs in what stands before it,
or in what stands behind it.  So where a message is put together from parts, what
is looked for is found in the parts.

Main results:

- Theorem `contains_iff`: to occur is to be a stretch.
- Theorem `infix_append_cons_iff`: nothing occurs across a character it does not
  have.
- Theorem `contains_headed`: what has no colon is not found in a heading, unless
  the heading has it.
-/

namespace ProvisionWatch
namespace Text

theorem occursIn_iff (needle cs : List Char) : occursIn needle cs = true ↔ needle <:+: cs := by
  induction cs with
  | nil => simp [occursIn]
  | cons c cs ih =>
      rw [occursIn, Bool.or_eq_true, List.isPrefixOf_iff_prefix, ih, List.infix_cons_iff]

/-- A text occurs in another one exactly if it is a stretch of it. -/
theorem contains_iff {text needle : String} :
    contains text needle = true ↔ needle.toList <:+: text.toList :=
  occursIn_iff _ _

/-- Only the empty text begins what begins with a character that it does not have. -/
theorem eq_nil_of_prefix_cons {needle : List Char} {c : Char} (hc : c ∉ needle)
    {after : List Char} (h : needle <+: c :: after) : needle = [] := by
  refine (List.prefix_cons_iff.mp h).resolve_right ?_
  rintro ⟨rest, hrest, -⟩
  exact hc (hrest ▸ List.mem_cons_self)

/-- Nothing occurs across a character that it does not have. -/
theorem infix_append_cons_iff {needle : List Char} {c : Char} (hc : c ∉ needle)
    {before after : List Char} :
    needle <:+: before ++ c :: after ↔ needle <:+: before ∨ needle <:+: after := by
  constructor
  · intro h
    rcases List.infix_append_iff.mp h with hbefore | hafter | ⟨front, back, rfl, hfront, hback⟩
    · exact .inl hbefore
    · rcases List.infix_cons_iff.mp hafter with hstart | hafter
      · obtain rfl := eq_nil_of_prefix_cons hc hstart
        exact .inl List.nil_infix
      · exact .inr hafter
    · obtain rfl := eq_nil_of_prefix_cons (fun hmem => hc (List.mem_append_right front hmem)) hback
      rw [List.append_nil]
      exact .inl hfront.isInfix
  · rintro (hbefore | hafter)
    · exact List.infix_append_iff.mpr (.inl hbefore)
    · exact List.infix_append_iff.mpr (.inr (.inl (List.infix_cons_iff.mpr (.inr hafter))))

/-- What has no colon and does not begin with a blank is found behind a heading, unless it is found
in the heading. -/
theorem contains_headed {heading needle : String} (hcolon : ':' ∉ needle.toList)
    (hblank : needle.toList.head? ≠ some ' ') (hapart : contains heading needle = false)
    (text : String) : contains (heading ++ ": " ++ text) needle = contains text needle := by
  have hheading : ¬ needle.toList <:+: heading.toList := by
    rw [← contains_iff, hapart]
    exact Bool.false_ne_true
  have hparts : (heading ++ ": " ++ text).toList = heading.toList ++ ':' :: ' ' :: text.toList := by
    simp
  rw [Bool.eq_iff_iff, contains_iff, contains_iff, hparts, infix_append_cons_iff hcolon,
    List.infix_cons_iff]
  refine ⟨?_, fun h => .inr (.inr h)⟩
  rintro (hfound | hstart | hfound)
  · exact absurd hfound hheading
  · rcases List.prefix_cons_iff.mp hstart with hnil | ⟨rest, hrest, -⟩
    · rw [hnil]
      exact List.nil_infix
    · exact absurd (by rw [hrest]; rfl) hblank
  · exact hfound

end Text
end ProvisionWatch

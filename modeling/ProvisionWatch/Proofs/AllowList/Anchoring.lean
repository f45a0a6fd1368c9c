import ProvisionWatch.AllowList
import ProvisionWatch.Proofs.Pattern.Reading

/-!
# Patterns of whole namespaces

A pattern of the allow-list is meant to describe a whole namespace, so its text
is wrapped in a group between the two ends.  A text that is well formed by itself
keeps to that group, and then the wrapped text occurs in a namespace exactly if
the pattern describes all of it.

A text may also close the group and open another: it is not well formed by itself,
but wrapped it can be.  What it is tied to then is one end at a time.

Main results:

- Theorem `read?_wrapped`: what is read of a wrapped text.
- Theorem `occursIn_tied`: where a pattern between the ends of a text occurs.
- Theorem `authorize_iff_described`: which namespaces may be read.
-/

namespace ProvisionWatch
namespace Pattern

/-! ## Texts by themselves -/

/-- What a text means by itself, however deep it is nested and whatever room it takes. -/
def written? (text : String) : Option Part :=
  (readBranches (text.toList.length + 1) false .standard { count := 0, names := [] } [] []
    text.toList).map ReadGroup.part

/-- Whether a text closes a group that it has not opened. -/
def closesGroup (text : String) : Bool :=
  (readBranches (text.toList.length + 1) true .standard { count := 0, names := [] } [] []
    text.toList).isSome

theorem read?_eq (text : String) : read? text = (written? text).bind fun part =>
    if part.depth ≤ greatestDepth ∧ fits part.pattern then some part.pattern else none := by
  unfold read? written?
  rw [Option.bind_map]
  rfl

theorem bounded_of_written? {text : String} {part : Part} (h : written? text = some part) :
    part.pattern.Bounded := by
  obtain ⟨g, hread, rfl⟩ := Option.map_eq_some_iff.mp h
  exact (Reading.of_readBranches hread).bounded nofun nofun

/-! ## Texts between the ends -/

/-- The text is read as what it means by itself, between the two ends. -/
def Part.tied (part : Part) : Part :=
  { pattern := Pattern.tied .textStart .textEnd part.pattern, depth := part.depth + 2,
    repeatable := true }

@[simp]
theorem skip_standard (cs : List Char) : Flags.standard.skip cs = cs :=
  rfl

theorem toList_wrapped (text : String) :
    (AllowList.wrapped text).toList = '^' :: '(' :: '?' :: ':' :: (text.toList ++ [')', '$']) := by
  simp [AllowList.wrapped]

/-- A wrapped text is read by what is inside its group, and by what is left behind. -/
theorem exists_inside_of_wrapped {text : String} {part : Part}
    (h : written? (AllowList.wrapped text) = some part) : ∃ inside g,
      Reading true .standard { count := 0, names := [] } [] [] (text.toList ++ [')', '$']) inside ∧
      Reading false .standard inside.groups [] [inside.nested, .plain (.look .textStart)]
        inside.rest g ∧ part = g.part := by
  obtain ⟨g, hread, rfl⟩ := Option.map_eq_some_iff.mp h
  rw [toList_wrapped, List.length_cons,
    readBranches_of_primitive _ (skip_standard _) (by decide)] at hread
  obtain ⟨⟨start, rest⟩, hstart, hread⟩ := Option.bind_eq_some_iff.mp hread
  cases hstart
  dsimp only at hread
  rw [List.length_cons, readBranches_of_group _ (skip_standard _)] at hread
  obtain ⟨⟨opening, rest⟩, hopening, hread⟩ := Option.bind_eq_some_iff.mp hread
  cases hopening
  obtain ⟨inside, hinside, hread⟩ := Option.bind_eq_some_iff.mp hread
  exact ⟨inside, g, .of_readBranches hinside, .of_readBranches hread, rfl⟩

/-- Behind the group stands the end of the text. -/
theorem part_of_dollar {groups : Groups} {inside g : ReadGroup}
    (h : Reading false .standard groups [] [inside.nested, .plain (.look .textStart)] ['$'] g) :
    g.part = inside.part.tied := by
  have hread := h.readBranches (Nat.lt_succ_self _) false
  rw [readBranches_of_primitive _ (skip_standard _) (by decide)] at hread
  obtain rfl : _ = g := Option.some.inj hread
  have hdollar : Flags.standard.dollar = .textEnd := rfl
  have hpattern :
      alternatives [sequence [look .textStart, inside.part.pattern, look .textEnd]] = _ :=
    alternatives_tied .textStart .textEnd inside.part.pattern
  simpa [Part.choice, Part.row, Part.plain, Part.tied, Part.depthOf, ReadGroup.nested, hdollar]
    using hpattern

theorem append_eq_append_close {own used rest : List Char}
    (h : own ++ [')', '$'] = used ++ ')' :: rest) :
    (used = own ∧ rest = ['$']) ∨ ∃ left, own = used ++ ')' :: left := by
  rcases List.append_eq_append_iff.mp h with ⟨more, rfl, hmore⟩ | ⟨more, rfl, hmore⟩
  · cases more with
    | nil =>
        cases hmore
        exact .inl ⟨by simp, rfl⟩
    | cons c more => cases more <;> simp at hmore
  · cases more with
    | nil =>
        cases hmore
        exact .inl ⟨by simp, rfl⟩
    | cons c more =>
        cases hmore
        exact .inr ⟨more, rfl⟩

/-- A text that reads as the inside of a group closes it, and one that reads to its end does not. -/
theorem closesGroup_of_reading {inGroup : Bool} {text : String} {g : ReadGroup}
    (h : Reading inGroup .standard { count := 0, names := [] } [] [] text.toList g) :
    closesGroup text = inGroup ∧ written? text = if inGroup then none else some g.part := by
  rw [closesGroup, written?, h.readBranches (Nat.lt_succ_self _) true,
    h.readBranches (Nat.lt_succ_self _) false]
  cases inGroup <;> exact ⟨rfl, rfl⟩

/-- What is read of a wrapped text: what the text means by itself, if it keeps to its group. -/
theorem written?_wrapped {text : String} {part : Part}
    (h : written? (AllowList.wrapped text) = some part) :
    closesGroup text = false ∧ (∃ own, written? text = some own ∧ part = own.tied) ∨
      closesGroup text = true ∧ written? text = none := by
  obtain ⟨inside, g, hinside, hread, rfl⟩ := exists_inside_of_wrapped h
  obtain ⟨used, hused, hback⟩ := hinside.closed_alike
  rcases append_eq_append_close hused with ⟨rfl, hrest⟩ | ⟨left, hleft⟩
  · rw [hrest] at hread
    have hown := hback false []
    rw [ending, if_neg Bool.false_ne_true, List.append_nil] at hown
    obtain ⟨hkeeps, hown⟩ := closesGroup_of_reading hown
    exact .inl ⟨hkeeps, _, hown, part_of_dollar hread⟩
  · have hcloses := hback true left
    rw [ending, if_pos rfl, ← hleft] at hcloses
    exact .inr (closesGroup_of_reading hcloses)

/-- A pattern between the two ends occurs where it describes the whole text. -/
theorem occursIn_tied {p : Pattern} (hp : p.Bounded) (text : String) :
    (tied .textStart .textEnd p).occursIn text = true ↔ p.Describes text := by
  have hbounded : (tied .textStart .textEnd p).Bounded := by
    refine Bounded.sequence fun q hq => ?_
    simp only [List.mem_cons, List.not_mem_nil, or_false] at hq
    rcases hq with rfl | rfl | rfl
    · trivial
    · exact hp
    · trivial
  rw [occursIn_iff hbounded]
  simp only [spans_tied, Look.holds, beq_iff_eq]
  constructor
  · rintro ⟨i, -, j, rfl, hspans, hj⟩
    rw [hj, List.size_toArray, String.length_toList] at hspans
    exact hspans
  · intro h
    exact ⟨0, Nat.zero_le _, text.length, rfl, h, by rw [List.size_toArray, String.length_toList]⟩

end Pattern

namespace AllowList

open Pattern

/-! ## Lists of patterns -/

/-- The patterns of a list are what is read of the wrapped texts, all of which can be read. -/
theorem patterns_of_read? {texts : List String} {l : AllowList} (h : read? texts = some l) :
    (l.patterns = [] ↔ texts = []) ∧
      (∀ t ∈ texts, ∃ q, Pattern.read? (wrapped t) = some q) ∧
      ∀ q, q ∈ l.patterns ↔ ∃ t ∈ texts, Pattern.read? (wrapped t) = some q := by
  obtain ⟨patterns, hpatterns, rfl⟩ := Option.map_eq_some_iff.mp h
  clear h
  induction texts generalizing patterns with
  | nil =>
      cases hpatterns
      simp
  | cons t texts ih =>
      rw [List.mapM_cons] at hpatterns
      obtain ⟨q, hq, hpatterns⟩ := Option.bind_eq_some_iff.mp hpatterns
      obtain ⟨rest, hrest, hpatterns⟩ := Option.bind_eq_some_iff.mp hpatterns
      cases hpatterns
      obtain ⟨-, hread, hmem⟩ := ih rest hrest
      refine ⟨by simp, List.forall_mem_cons.mpr ⟨⟨q, hq⟩, hread⟩, fun r => ?_⟩
      simp only [List.mem_cons, hmem, exists_eq_or_imp, hq, Option.some.injEq, @eq_comm _ r q]

/-- What is read of a wrapped text that is accepted. -/
theorem read?_wrapped {text : String} {q : Pattern} (h : Pattern.read? (wrapped text) = some q) :
    closesGroup text = false ∧ (∃ own, written? text = some own ∧ own.depth + 2 ≤ greatestDepth ∧
      q = tied .textStart .textEnd own.pattern) ∨
        closesGroup text = true ∧ written? text = none := by
  rw [Pattern.read?_eq] at h
  obtain ⟨part, hpart, h⟩ := Option.bind_eq_some_iff.mp h
  split_ifs at h with hlimits
  cases h
  rcases written?_wrapped hpart with ⟨hkeeps, own, hown, rfl⟩ | hcloses
  · exact .inl ⟨hkeeps, own, hown, hlimits.1, rfl⟩
  · exact .inr hcloses

/-- The pattern, taken by itself, describes the whole namespace. -/
def DescribedBy (ns text : String) : Prop :=
  ∃ own, written? text = some own ∧ own.pattern.Describes ns

section Accepted

variable {text : String} {q : Pattern} (h : Pattern.read? (wrapped text) = some q)
include h

theorem isSome_written? : (written? text).isSome = !closesGroup text := by
  rcases read?_wrapped h with ⟨hkeeps, own, hown, -⟩ | ⟨hcloses, hown⟩
  · rw [hown, hkeeps]
    rfl
  · rw [hown, hcloses]
    rfl

/-- By itself the text is not nested too deeply, and only its size can still be refused. -/
theorem read?_of_written? {own : Part} (hown : written? text = some own) :
    Pattern.read? text = if fits own.pattern then some own.pattern else none := by
  rcases read?_wrapped h with ⟨-, own', hown', hdepth, -⟩ | ⟨-, hnone⟩
  · rw [hown] at hown'
    cases hown'
    have hlimit : own.depth ≤ greatestDepth := by omega
    simp [Pattern.read?_eq, hown, hlimit]
  · rw [hnone] at hown
    cases hown

/-- If the text keeps to its group, the wrapped text is tied to both ends of a namespace. -/
theorem occursIn_iff_describedBy (hkeeps : closesGroup text = false) (ns : String) :
    q.occursIn ns = true ↔ DescribedBy ns text := by
  rcases read?_wrapped h with ⟨-, own, hown, -, rfl⟩ | ⟨hcloses, -⟩
  · rw [occursIn_tied (bounded_of_written? hown)]
    constructor
    · exact fun hdescribes => ⟨own, hown, hdescribes⟩
    · rintro ⟨own', hown', hdescribes⟩
      rw [hown] at hown'
      cases hown'
      exact hdescribes
  · rw [hkeeps] at hcloses
    cases hcloses

end Accepted

theorem closesGroup_of_describedBy {ns text : String} {q : Pattern}
    (h : Pattern.read? (wrapped text) = some q) (hdescribed : DescribedBy ns text) :
    closesGroup text = false := by
  obtain ⟨own, hown, -⟩ := hdescribed
  have hsome := isSome_written? h
  rw [hown] at hsome
  simpa using hsome

theorem authorize_iff_occursIn {texts : List String} {l : AllowList} (h : read? texts = some l)
    (ns : String) : l.authorize ns = none ↔ texts = [] ∨
      ∃ t ∈ texts, ∃ q, Pattern.read? (wrapped t) = some q ∧ q.occursIn ns = true := by
  obtain ⟨hnil, -, hmem⟩ := patterns_of_read? h
  simp only [authorize_eq_none_iff, admits, Bool.or_eq_true, List.isEmpty_iff, hnil,
    List.any_eq_true, hmem]
  constructor
  · rintro (rfl | ⟨q, ⟨t, ht, hq⟩, hoccurs⟩)
    · exact .inl rfl
    · exact .inr ⟨t, ht, q, hq, hoccurs⟩
  · rintro (rfl | ⟨t, ht, q, hq, hoccurs⟩)
    · exact .inl rfl
    · exact .inr ⟨q, ⟨t, ht, hq⟩, hoccurs⟩

/-- Every accepted text is well formed by itself unless it closes a group that it has not opened; by
itself it is never nested too deeply, so only its size can still be refused.  A namespace may be
read exactly if there are no patterns, if one of them describes all of it, or if the wrapped form of
a text that closes its group occurs in it. -/
theorem authorize_iff_described {texts : List String} {l : AllowList} (h : read? texts = some l) :
    (∀ t ∈ texts, (written? t).isSome = !closesGroup t) ∧
      (∀ t ∈ texts, ∀ own, written? t = some own →
        Pattern.read? t = if fits own.pattern then some own.pattern else none) ∧
      ∀ ns, l.authorize ns = none ↔ texts = [] ∨ (∃ t ∈ texts, DescribedBy ns t) ∨
        ∃ t ∈ texts, closesGroup t = true ∧
          ∃ q, Pattern.read? (wrapped t) = some q ∧ q.occursIn ns = true := by
  obtain ⟨-, hread, -⟩ := patterns_of_read? h
  refine ⟨fun t ht => ?_, fun t ht own hown => ?_, fun ns => ?_⟩
  · obtain ⟨q, hq⟩ := hread t ht
    exact isSome_written? hq
  · obtain ⟨q, hq⟩ := hread t ht
    exact read?_of_written? hq hown
  · rw [authorize_iff_occursIn h]
    refine or_congr_right ⟨?_, ?_⟩
    · rintro ⟨t, ht, q, hq, hoccurs⟩
      cases hcloses : closesGroup t with
      | false => exact .inl ⟨t, ht, (occursIn_iff_describedBy hq hcloses ns).mp hoccurs⟩
      | true => exact .inr ⟨t, ht, hcloses, q, hq, hoccurs⟩
    · rintro (⟨t, ht, hdescribed⟩ | ⟨t, ht, -, q, hq, hoccurs⟩)
      · obtain ⟨q, hq⟩ := hread t ht
        have hkeeps := closesGroup_of_describedBy hq hdescribed
        exact ⟨t, ht, q, hq, (occursIn_iff_describedBy hq hkeeps ns).mpr hdescribed⟩
      · exact ⟨t, ht, q, hq, hoccurs⟩

theorem authorize_iff_described_of_alternatives :
    ∃ l, read? ["prod|team", "kcm(-eu)*"] = some l ∧ l.authorize "team" = none ∧
      ∃ t ∈ ["prod|team", "kcm(-eu)*"], DescribedBy "team" t := by
  have hteam :
      (read? ["prod|team", "kcm(-eu)*"]).map (fun l => l.authorize "team") = some none := by
    decide +kernel
  have hkeep : ∀ t ∈ ["prod|team", "kcm(-eu)*"], closesGroup t = false := by decide +kernel
  obtain ⟨l, hl, hteam⟩ := Option.map_eq_some_iff.mp hteam
  refine ⟨l, hl, hteam, ?_⟩
  rcases ((authorize_iff_described hl).2.2 "team").mp hteam with hnil | hdescribed | hcloses
  · cases hnil
  · exact hdescribed
  · obtain ⟨t, ht, hclose, -⟩ := hcloses
    rw [hkeep t ht] at hclose
    cases hclose

/-- A text that closes its group is accepted, although it is no pattern, and admits a namespace of
which it describes a prefix only. -/
theorem authorize_of_closed_group :
    (read? ["a)|(b"]).map (fun l => l.authorize "ax") = some none ∧ Pattern.read? "a)|(b" = none ∧
      ¬ DescribedBy "ax" "a)|(b" := by
  have hnone : written? "a)|(b" = none := by decide +kernel
  refine ⟨by decide +kernel, by decide +kernel, ?_⟩
  rintro ⟨own, hown, -⟩
  rw [hnone] at hown
  cases hown

end AllowList
end ProvisionWatch

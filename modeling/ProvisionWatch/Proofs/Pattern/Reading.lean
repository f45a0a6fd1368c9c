import ProvisionWatch.Proofs.Pattern.SightInGroups

/-!
# Readings

A reading says how a group, or a whole pattern, is read: one step for each sign
of a branch, each group inside and each part, down to the closing parenthesis or
the end of the text.  The fuel of the reader is gone, and what is left behind the
group is named.

What is read of a group does not depend on what stands behind it, nor on whether
its end is that of the text.

Main results:

- Theorem `Reading.of_readBranches`: what the reader finds is a reading.
- Theorem `Reading.readBranches`: with any fuel that exceeds the length of the text
  it finds the reading, and what is closed is not also read to the end of the text.
- Theorem `Reading.closed_alike`: a group reads the same wherever it is closed.
- Theorem `Reading.bounded`: all bounds in what is read can be met.
-/

namespace ProvisionWatch
namespace Pattern

/-- The part of a group that was read inside. -/
def ReadGroup.nested (g : ReadGroup) : Part :=
  { g.part with depth := g.part.depth + 1 }

/-- The same part, remembered by its number. -/
def ReadGroup.numbered (g : ReadGroup) (number : Nat) : Part :=
  { g.part with pattern := .group number g.part.pattern, depth := g.part.depth + 1 }

/-- The part of a class. -/
def ReadClass.part (c : ReadClass) : Part :=
  { pattern := ofChars c.chars, depth := c.depth, repeatable := true }

/-- How branches are read, up to a closing parenthesis in a group and up to the end of the text
elsewhere. -/
inductive Reading : Bool → Flags → Groups → List Part → List Part → List Char → ReadGroup → Prop
    where
  | finish {f : Flags} {groups : Groups} {branches parts : List Part} {cs : List Char}
      (hskip : f.skip cs = []) :
      Reading false f groups branches parts cs
        { part := .choice (.row parts :: branches), groups := groups, rest := [] }
  | close {f : Flags} {groups : Groups} {branches parts : List Part} {cs rest : List Char}
      (hskip : f.skip cs = ')' :: rest) :
      Reading true f groups branches parts cs
        { part := .choice (.row parts :: branches), groups := groups, rest := rest }
  | branch {inGroup : Bool} {f : Flags} {groups : Groups} {branches parts : List Part}
      {cs rest : List Char} {g : ReadGroup} (hskip : f.skip cs = '|' :: rest)
      (next : Reading inGroup f groups (.row parts :: branches) [] rest g) :
      Reading inGroup f groups branches parts cs g
  | flags {inGroup : Bool} {f new : Flags} {groups : Groups} {branches parts : List Part}
      {cs rest rest' : List Char} {g : ReadGroup} (hskip : f.skip cs = '(' :: rest)
      (hopening : readOpening f groups.names rest = some (.flags new, rest'))
      (next : Reading inGroup new groups branches (.flags :: parts) rest' g) :
      Reading inGroup f groups branches parts cs g
  | unnamed {inGroup : Bool} {f new : Flags} {groups : Groups} {branches parts : List Part}
      {cs rest rest' : List Char} {inside g : ReadGroup} (hskip : f.skip cs = '(' :: rest)
      (hopening : readOpening f groups.names rest = some (.unnamed new, rest'))
      (inner : Reading true new groups [] [] rest' inside)
      (next : Reading inGroup f inside.groups branches (inside.nested :: parts) inside.rest g) :
      Reading inGroup f groups branches parts cs g
  | remembered {inGroup : Bool} {f : Flags} {groups : Groups} {branches parts : List Part}
      {cs rest rest' : List Char} {name : Option (List Char)} {inside g : ReadGroup}
      (hskip : f.skip cs = '(' :: rest)
      (hopening : readOpening f groups.names rest = some (.remembered name, rest'))
      (inner : Reading true f (groups.add name) [] [] rest' inside)
      (next : Reading inGroup f inside.groups branches
        (inside.numbered (groups.count + 1) :: parts) inside.rest g) :
      Reading inGroup f groups branches parts cs g
  | bracket {inGroup : Bool} {f : Flags} {groups : Groups} {branches parts : List Part}
      {cs rest rest' : List Char} {c : ReadClass} {g : ReadGroup} (hskip : f.skip cs = '[' :: rest)
      (hclass : readClass (2 * rest.length + 2) f rest = some (c, rest'))
      (next : Reading inGroup f groups branches (c.part :: parts) rest' g) :
      Reading inGroup f groups branches parts cs g
  | again {inGroup : Bool} {f : Flags} {groups : Groups} {branches before : List Part}
      {last part : Part} {cs rest rest' : List Char} {n : Nat} {m : Option Nat} {g : ReadGroup}
      (hbounds : readRepetition? f (f.skip cs) = some (some (n, m, rest)))
      (hpart : last.repeated? f n m rest = some (part, rest'))
      (next : Reading inGroup f groups branches (part :: before) rest' g) :
      Reading inGroup f groups branches (last :: before) cs g
  | primitive {inGroup : Bool} {f : Flags} {groups : Groups} {branches parts : List Part}
      {c : Char} {cs rest rest' : List Char} {p : Pattern} {g : ReadGroup}
      (hskip : f.skip cs = c :: rest) (hc : c ∉ [')', '|', '(', '['] ++ repetitionMarks)
      (hread : readPrimitive f (c :: rest) = some (p, rest'))
      (next : Reading inGroup f groups branches (.plain p :: parts) rest' g) :
      Reading inGroup f groups branches parts cs g

/-! ## Reader and readings -/

section Steps

variable {f : Flags} {inGroup : Bool} {groups : Groups} {branches parts : List Part}
  {cs rest : List Char} (fuel : Nat)

theorem readBranches_of_nil (h : f.skip cs = []) :
    readBranches (fuel + 1) inGroup f groups branches parts cs =
      if inGroup then none
      else some { part := .choice (.row parts :: branches), groups := groups, rest := [] } := by
  rw [readBranches, h]

theorem readBranches_of_close (h : f.skip cs = ')' :: rest) :
    readBranches (fuel + 1) inGroup f groups branches parts cs =
      if inGroup then
        some { part := .choice (.row parts :: branches), groups := groups, rest := rest }
      else none := by
  rw [readBranches, h]
  rfl

theorem readBranches_of_branch (h : f.skip cs = '|' :: rest) :
    readBranches (fuel + 1) inGroup f groups branches parts cs =
      readBranches fuel inGroup f groups (.row parts :: branches) [] rest := by
  rw [readBranches, h]
  rfl

theorem readBranches_of_group (h : f.skip cs = '(' :: rest) :
    readBranches (fuel + 1) inGroup f groups branches parts cs =
      (readOpening f groups.names rest).bind fun x => match x.1 with
        | .flags new => readBranches fuel inGroup new groups branches (.flags :: parts) x.2
        | .unnamed new => (readBranches fuel true new groups [] [] x.2).bind fun g =>
            readBranches fuel inGroup f g.groups branches (g.nested :: parts) g.rest
        | .remembered name => (readBranches fuel true f (groups.add name) [] [] x.2).bind fun g =>
            readBranches fuel inGroup f g.groups branches
              (g.numbered (groups.count + 1) :: parts) g.rest := by
  rw [readBranches, h]
  rfl

theorem readBranches_of_bracket (h : f.skip cs = '[' :: rest) :
    readBranches (fuel + 1) inGroup f groups branches parts cs =
      (readClass (2 * rest.length + 2) f rest).bind fun x =>
        readBranches fuel inGroup f groups branches (x.1.part :: parts) x.2 := by
  rw [readBranches, h]
  rfl

theorem readBranches_of_repetition {bounds : Option (Nat × Option Nat × List Char)}
    (h : readRepetition? f (f.skip cs) = some bounds) :
    readBranches (fuel + 1) inGroup f groups branches parts cs =
      bounds.bind fun (n, m, rest) => (parts.head?.map fun last => (last, parts.tail)).bind fun x =>
        (x.1.repeated? f n m rest).bind fun (part, rest) =>
          readBranches fuel inGroup f groups branches (part :: x.2) rest := by
  rw [readBranches]
  split <;> rename_i hskip
  · rw [hskip] at h
    cases h
  · rw [hskip] at h
    cases h
  · rw [hskip] at h
    cases h
  · rw [hskip] at h
    cases h
  · rw [hskip] at h
    cases h
  · rw [h]
    rfl

theorem readBranches_of_primitive {c : Char} (h : f.skip cs = c :: rest)
    (hc : c ∉ [')', '|', '(', '['] ++ repetitionMarks) :
    readBranches (fuel + 1) inGroup f groups branches parts cs =
      (readPrimitive f (c :: rest)).bind fun (p, rest) =>
        readBranches fuel inGroup f groups branches (.plain p :: parts) rest := by
  have hmarks : c ∉ repetitionMarks := fun h => hc (List.mem_append_right _ h)
  simp only [List.mem_append, List.mem_cons, List.not_mem_nil, or_false, not_or] at hc
  rw [readBranches, h]
  split
  all_goals first | (simp_all; done) | skip
  rw [readRepetition?_eq_none hmarks]
  rfl

end Steps

theorem Reading.of_readBranches {fuel : Nat} {inGroup : Bool} {f : Flags} {groups : Groups}
    {branches parts : List Part} {cs : List Char} {g : ReadGroup}
    (h : Pattern.readBranches fuel inGroup f groups branches parts cs = some g) :
    Reading inGroup f groups branches parts cs g := by
  induction fuel generalizing inGroup f groups branches parts cs g with
  | zero => cases h
  | succ fuel ih =>
      cases hskip : f.skip cs with
      | nil =>
          rw [readBranches_of_nil fuel hskip] at h
          cases inGroup with
          | true => cases h
          | false =>
              cases h
              exact .finish hskip
      | cons c rest =>
          by_cases hclose : c = ')'
          · subst hclose
            rw [readBranches_of_close fuel hskip] at h
            cases inGroup with
            | false => cases h
            | true =>
                cases h
                exact .close hskip
          by_cases hbranch : c = '|'
          · subst hbranch
            rw [readBranches_of_branch fuel hskip] at h
            exact .branch hskip (ih h)
          by_cases hgroup : c = '('
          · subst hgroup
            rw [readBranches_of_group fuel hskip] at h
            obtain ⟨⟨opening, rest'⟩, hopening, h⟩ := Option.bind_eq_some_iff.mp h
            cases opening with
            | flags new => exact .flags hskip hopening (ih h)
            | unnamed new =>
                obtain ⟨inside, hinside, h⟩ := Option.bind_eq_some_iff.mp h
                exact .unnamed hskip hopening (ih hinside) (ih h)
            | remembered name =>
                obtain ⟨inside, hinside, h⟩ := Option.bind_eq_some_iff.mp h
                exact .remembered hskip hopening (ih hinside) (ih h)
          by_cases hbracket : c = '['
          · subst hbracket
            rw [readBranches_of_bracket fuel hskip] at h
            obtain ⟨⟨class', rest'⟩, hclass, h⟩ := Option.bind_eq_some_iff.mp h
            exact .bracket hskip hclass (ih h)
          cases hbounds : readRepetition? f (c :: rest) with
          | some bounds =>
              rw [← hskip] at hbounds
              rw [readBranches_of_repetition fuel hbounds] at h
              cases bounds with
              | none => cases h
              | some bounds =>
                  obtain ⟨n, m, rest'⟩ := bounds
                  cases parts with
                  | nil => cases h
                  | cons last before =>
                      have hrest : (last.repeated? f n m rest').bind _ = some g := h
                      obtain ⟨⟨part, rest''⟩, hpart, h⟩ := Option.bind_eq_some_iff.mp hrest
                      exact .again hbounds hpart (ih h)
          | none =>
              have hc : c ∉ [')', '|', '(', '['] ++ repetitionMarks := by
                simp [hclose, hbranch, hgroup, hbracket, not_mem_of_readRepetition? hbounds]
              rw [readBranches_of_primitive fuel hskip hc] at h
              obtain ⟨⟨p, rest'⟩, hread, h⟩ := Option.bind_eq_some_iff.mp h
              exact .primitive hskip hc hread (ih h)

/-! ## What is left -/

theorem Flags.length_skip_le (f : Flags) (cs : List Char) : (f.skip cs).length ≤ cs.length := by
  obtain ⟨used, hused, -⟩ := f.exists_skipped cs
  have := congrArg List.length hused
  simp at this
  omega

theorem Flags.length_of_skip {f : Flags} {cs rest : List Char} {c : Char}
    (h : f.skip cs = c :: rest) : rest.length < cs.length := by
  have := f.length_skip_le cs
  rw [h] at this
  exact this

theorem Local.length_le {read : List Char → Option (α × List Char)} (hlocal : Local read)
    {cs rest : List Char} {a : α} (h : read cs = some (a, rest)) : rest.length ≤ cs.length := by
  obtain ⟨used, rfl, -⟩ := hlocal h
  simp

theorem length_of_readRepetition? {f : Flags} {cs rest : List Char} {n : Nat} {m : Option Nat}
    (h : readRepetition? f (f.skip cs) = some (some (n, m, rest))) : rest.length < cs.length := by
  cases hskip : f.skip cs with
  | nil =>
      rw [hskip] at h
      cases h
  | cons c next =>
      rw [hskip] at h
      obtain ⟨-, used, rfl, -⟩ := readRepetition?_local h
      have := Flags.length_of_skip hskip
      simp at this
      omega

theorem length_of_readPrimitive {f : Flags} {cs rest : List Char} {p : Pattern}
    (h : readPrimitive f cs = some (p, rest)) : rest.length < cs.length := by
  obtain ⟨c, used, rfl, -⟩ := readPrimitive_local h
  simp only [List.length_cons, List.length_append]
  omega

theorem Reading.length_le {inGroup : Bool} {f : Flags} {groups : Groups}
    {branches parts : List Part} {cs : List Char} {g : ReadGroup}
    (h : Reading inGroup f groups branches parts cs g) : g.rest.length ≤ cs.length := by
  induction h with
  | finish => exact Nat.zero_le _
  | close hskip => exact (Flags.length_of_skip hskip).le
  | branch hskip _ ih => exact ih.trans (Flags.length_of_skip hskip).le
  | flags hskip hopening _ ih =>
      have := Flags.length_of_skip hskip
      have := Local.length_le (readOpening_local _ _) hopening
      omega
  | unnamed hskip hopening _ _ inner ih =>
      have := Flags.length_of_skip hskip
      have := Local.length_le (readOpening_local _ _) hopening
      omega
  | remembered hskip hopening _ _ inner ih =>
      have := Flags.length_of_skip hskip
      have := Local.length_le (readOpening_local _ _) hopening
      omega
  | bracket hskip hclass _ ih =>
      have := Flags.length_of_skip hskip
      have := Local.length_le (readClass_local _) hclass
      omega
  | again hbounds hpart _ ih =>
      have := length_of_readRepetition? hbounds
      have := Local.length_le (repeated?_local _ _ _) hpart
      omega
  | primitive hskip _ hread _ ih =>
      have := Flags.length_of_skip hskip
      have := length_of_readPrimitive hread
      simp only [List.length_cons] at this
      omega

/-- The reader follows a reading, and with the other end it finds nothing. -/
theorem Reading.readBranches {inGroup : Bool} {f : Flags} {groups : Groups}
    {branches parts : List Part} {cs : List Char} {g : ReadGroup}
    (h : Reading inGroup f groups branches parts cs g) {fuel : Nat} (hfuel : cs.length < fuel)
    (m : Bool) : Pattern.readBranches fuel m f groups branches parts cs =
      if m = inGroup then some g else none := by
  induction h generalizing fuel m with
  | finish hskip =>
      obtain ⟨fuel, rfl⟩ := Nat.exists_eq_add_one.mpr (Nat.zero_lt_of_lt hfuel)
      rw [readBranches_of_nil fuel hskip]
      cases m <;> rfl
  | close hskip =>
      obtain ⟨fuel, rfl⟩ := Nat.exists_eq_add_one.mpr (Nat.zero_lt_of_lt hfuel)
      rw [readBranches_of_close fuel hskip]
  | branch hskip _ ih =>
      obtain ⟨fuel, rfl⟩ := Nat.exists_eq_add_one.mpr (Nat.zero_lt_of_lt hfuel)
      have := Flags.length_of_skip hskip
      rw [readBranches_of_branch fuel hskip, ih (by omega)]
  | flags hskip hopening _ ih =>
      obtain ⟨fuel, rfl⟩ := Nat.exists_eq_add_one.mpr (Nat.zero_lt_of_lt hfuel)
      have := Flags.length_of_skip hskip
      have := Local.length_le (readOpening_local _ _) hopening
      rw [readBranches_of_group fuel hskip, hopening]
      exact ih (by omega) m
  | unnamed hskip hopening inner _ ihinner ih =>
      obtain ⟨fuel, rfl⟩ := Nat.exists_eq_add_one.mpr (Nat.zero_lt_of_lt hfuel)
      have := Flags.length_of_skip hskip
      have := Local.length_le (readOpening_local _ _) hopening
      have := inner.length_le
      rw [readBranches_of_group fuel hskip, hopening]
      refine (congrArg (Option.bind · _) (ihinner (by omega) true)).trans ?_
      exact ih (by omega) m
  | remembered hskip hopening inner _ ihinner ih =>
      obtain ⟨fuel, rfl⟩ := Nat.exists_eq_add_one.mpr (Nat.zero_lt_of_lt hfuel)
      have := Flags.length_of_skip hskip
      have := Local.length_le (readOpening_local _ _) hopening
      have := inner.length_le
      rw [readBranches_of_group fuel hskip, hopening]
      refine (congrArg (Option.bind · _) (ihinner (by omega) true)).trans ?_
      exact ih (by omega) m
  | bracket hskip hclass _ ih =>
      obtain ⟨fuel, rfl⟩ := Nat.exists_eq_add_one.mpr (Nat.zero_lt_of_lt hfuel)
      have := Flags.length_of_skip hskip
      have := Local.length_le (readClass_local _) hclass
      rw [readBranches_of_bracket fuel hskip, hclass]
      exact ih (by omega) m
  | again hbounds hpart _ ih =>
      obtain ⟨fuel, rfl⟩ := Nat.exists_eq_add_one.mpr (Nat.zero_lt_of_lt hfuel)
      have := length_of_readRepetition? hbounds
      have := Local.length_le (repeated?_local _ _ _) hpart
      rw [readBranches_of_repetition fuel hbounds]
      show Option.bind (Part.repeated? _ _ _ _ _) _ = _
      rw [hpart]
      exact ih (by omega) m
  | primitive hskip hc hread _ ih =>
      obtain ⟨fuel, rfl⟩ := Nat.exists_eq_add_one.mpr (Nat.zero_lt_of_lt hfuel)
      have := Flags.length_of_skip hskip
      have := length_of_readPrimitive hread
      simp only [List.length_cons] at this
      rw [readBranches_of_primitive fuel hskip hc, hread]
      exact ih (by omega) m

/-! ## What stands behind a group -/

/-- What follows a branch: the closing parenthesis of a group with what is left behind it, or
nothing. -/
def ending (inGroup : Bool) (left : List Char) : List Char :=
  if inGroup then ')' :: left else []

/-- What is left behind the ending. -/
def ReadGroup.leaving (g : ReadGroup) (inGroup : Bool) (left : List Char) : ReadGroup :=
  { g with rest := if inGroup then left else [] }

theorem sameAhead_ending (rest : List Char) (inGroup : Bool) (left : List Char) :
    SameAhead (')' :: rest) (ending inGroup left) := by
  cases inGroup with
  | true => exact .close rest left
  | false => exact .stop rest

@[simp]
theorem Flags.skip_brace (f : Flags) (cs : List Char) : f.skip ('\x7b' :: cs) = '\x7b' :: cs := by
  cases hspaced : f.spaced with
  | false => exact skip_of_not_spaced f _ hspaced
  | true =>
      have hdrop : ('\x7b' :: cs).dropWhile Text.isBlank = '\x7b' :: cs :=
        List.dropWhile_cons_of_neg (by decide)
      rw [skip, hspaced, if_pos rfl, skipSpaced_of_no_comment (by simp [hdrop]), hdrop]

/-- No name of an assertion stands where branches are read. -/
theorem Reading.noLookName {inGroup : Bool} {f : Flags} {groups : Groups}
    {branches parts : List Part} {cs : List Char} {g : ReadGroup}
    (h : Reading inGroup f groups branches parts cs g) : NoLookName f cs := by
  rintro name rfl
  cases h with
  | finish hskip | close hskip | branch hskip | flags hskip | unnamed hskip | remembered hskip
  | bracket hskip =>
      rw [Flags.skip_brace] at hskip
      cases hskip
  | again hbounds =>
      rw [Flags.skip_brace] at hbounds
      exact noLookName_of_readRepetition? hbounds name rfl
  | primitive hskip hc =>
      rw [Flags.skip_brace] at hskip
      cases hskip
      exact absurd (by decide) hc

/-- What was read up to a closing parenthesis reads the same wherever it is closed, and where the
text ends instead. -/
def ClosesAlike (f : Flags) (groups : Groups) (branches parts : List Part) (cs : List Char)
    (g : ReadGroup) : Prop :=
  ∃ used, cs = used ++ ')' :: g.rest ∧ ∀ m left,
    Reading m f groups branches parts (used ++ ending m left) (g.leaving m left)

/-- A closing parenthesis can stand anywhere. -/
theorem ClosesAlike.close {f : Flags} {groups : Groups} {branches parts : List Part}
    {cs rest : List Char} (hskip : f.skip cs = ')' :: rest) :
    ClosesAlike f groups branches parts cs
      { part := .choice (.row parts :: branches), groups := groups, rest := rest } := by
  obtain ⟨skipped, hcs, hback⟩ := f.exists_skipped cs
  rw [hskip] at hcs hback
  refine ⟨skipped, hcs, fun m left => ?_⟩
  have hend := hback (sameAhead_ending rest m left)
  cases m with
  | true => exact .close hend
  | false => exact .finish hend

/-- A piece in front can be read again where what stands behind it can, as long as it is read in
the same way in front of everything that begins alike. -/
theorem ClosesAlike.behind {f f' : Flags} {groups groups' : Groups}
    {branches branches' parts parts' : List Part} {cs piece rest : List Char} {c : Char}
    {g : ReadGroup} (h : ClosesAlike f' groups' branches' parts' rest g)
    (hskip : f.skip cs = c :: (piece ++ rest))
    (hread : ∀ {m : Bool} {left cs' rest' : List Char}, SameAhead rest rest' →
      f.skip cs' = c :: (piece ++ rest') →
      Reading m f' groups' branches' parts' rest' (g.leaving m left) →
      Reading m f groups branches parts cs' (g.leaving m left)) :
    ClosesAlike f groups branches parts cs g := by
  obtain ⟨skipped, rfl, hskipped⟩ := Flags.exists_skipped_cons hskip
  obtain ⟨used, rfl, hused⟩ := h
  refine ⟨skipped ++ c :: (piece ++ used), by simp, fun m left => ?_⟩
  have hahead := (sameAhead_ending g.rest m left).append used
  refine hread hahead ?_ (hused m left)
  simp only [List.append_assoc, List.cons_append]
  exact hskipped (hahead.append piece)

/-- The text of a group inside, up to and with its closing parenthesis, reads the same in front of
everything. -/
theorem ClosesAlike.inside {f : Flags} {groups : Groups} {cs : List Char} {inside : ReadGroup}
    (h : ClosesAlike f groups [] [] cs inside) :
    ∃ piece, cs = piece ++ inside.rest ∧ ∀ {rest'}, SameAhead inside.rest rest' →
      SameAhead cs (piece ++ rest') ∧
        Reading true f groups [] [] (piece ++ rest') { inside with rest := rest' } := by
  obtain ⟨within, rfl, hwithin⟩ := h
  refine ⟨within ++ [')'], by simp, fun {rest'} hahead => ?_⟩
  rw [List.append_assoc, List.singleton_append]
  exact ⟨(hahead.next ')').append within, hwithin true rest'⟩

/-- A repetition reads the same in front of everything that begins alike. -/
theorem ClosesAlike.again {f : Flags} {groups : Groups} {branches before : List Part}
    {last part : Part} {least : Nat} {most : Option Nat} {cs rest rest' : List Char}
    {g : ReadGroup} (hbounds : readRepetition? f (f.skip cs) = some (some (least, most, rest)))
    (hpart : last.repeated? f least most rest = some (part, rest'))
    (h : ClosesAlike f groups branches (part :: before) rest' g) :
    ClosesAlike f groups branches (last :: before) cs g := by
  cases hskip : f.skip cs with
  | nil =>
      rw [hskip] at hbounds
      cases hbounds
  | cons c rest =>
      rw [hskip] at hbounds
      obtain ⟨-, bounds, rfl, hbounded⟩ := readRepetition?_local hbounds
      obtain ⟨mark, rfl, hmarked⟩ := repeated?_local _ _ _ hpart
      rw [← List.append_assoc] at hskip
      refine h.behind hskip fun hahead hskip' hnext => .again ?_ (hmarked hahead) hnext
      rw [hskip', List.append_assoc]
      exact hbounded (hahead.append mark)

/-- A group reads the same wherever it is closed, and where the text ends instead. -/
theorem Reading.closed_alike {f : Flags} {groups : Groups} {branches parts : List Part}
    {cs : List Char} {g : ReadGroup} (h : Reading true f groups branches parts cs g) :
    ClosesAlike f groups branches parts cs g := by
  generalize hin : true = inGroup at h
  induction h with
  | finish => cases hin
  | close hskip => exact .close hskip
  | @branch inGroup f groups branches parts cs rest g hskip _ ih =>
      have hskip' : f.skip cs = '|' :: ([] ++ rest) := hskip
      exact (ih hin).behind hskip' fun _ hskip' hnext => .branch hskip' hnext
  | flags hskip hopening _ ih =>
      obtain ⟨opened, rfl, hopened⟩ := readOpening_local _ _ hopening
      exact (ih hin).behind hskip fun hahead hskip' hnext => .flags hskip' (hopened hahead) hnext
  | unnamed hskip hopening _ _ ihinner ih =>
      obtain ⟨opened, rfl, hopened⟩ := readOpening_local _ _ hopening
      obtain ⟨piece, rfl, hpiece⟩ := (ihinner rfl).inside
      rw [← List.append_assoc] at hskip
      refine (ih hin).behind hskip fun hahead hskip' hnext => ?_
      obtain ⟨hinner, hinside⟩ := hpiece hahead
      rw [List.append_assoc] at hskip'
      exact .unnamed hskip' (hopened hinner) hinside hnext
  | remembered hskip hopening _ _ ihinner ih =>
      obtain ⟨opened, rfl, hopened⟩ := readOpening_local _ _ hopening
      obtain ⟨piece, rfl, hpiece⟩ := (ihinner rfl).inside
      rw [← List.append_assoc] at hskip
      refine (ih hin).behind hskip fun hahead hskip' hnext => ?_
      obtain ⟨hinner, hinside⟩ := hpiece hahead
      rw [List.append_assoc] at hskip'
      exact .remembered hskip' (hopened hinner) hinside hnext
  | bracket hskip hclass _ ih =>
      obtain ⟨listed, rfl, hlisted⟩ := readClass_local _ hclass
      exact (ih hin).behind hskip fun hahead hskip' hnext => .bracket hskip' (hlisted hahead) hnext
  | again hbounds hpart _ ih => exact .again hbounds hpart (ih hin)
  | primitive hskip hc hread _ ih =>
      obtain ⟨_, read, hrest, hagain⟩ := readPrimitive_local hread
      cases hrest
      exact (ih hin).behind hskip fun hahead hskip' hnext =>
        .primitive hskip' hc (hagain hahead hnext.noLookName) hnext

/-! ## Bounds that can be met -/

theorem Part.bounded_row {parts : List Part} (h : ∀ p ∈ parts, p.pattern.Bounded) :
    (Part.row parts).pattern.Bounded := by
  refine Bounded.sequence fun p hp => ?_
  obtain ⟨part, hpart, rfl⟩ := List.mem_map.mp hp
  exact h part (List.mem_reverse.mp hpart)

theorem Part.bounded_choice {branches : List Part} (h : ∀ p ∈ branches, p.pattern.Bounded) :
    (Part.choice branches).pattern.Bounded := by
  refine Bounded.alternatives fun p hp => ?_
  obtain ⟨part, hpart, rfl⟩ := List.mem_map.mp hp
  exact h part (List.mem_reverse.mp hpart)

/-- All bounds in what is read can be met, if those in what was read before can. -/
theorem Reading.bounded {inGroup : Bool} {f : Flags} {groups : Groups} {branches parts : List Part}
    {cs : List Char} {g : ReadGroup} (h : Reading inGroup f groups branches parts cs g)
    (hbranches : ∀ p ∈ branches, p.pattern.Bounded) (hparts : ∀ p ∈ parts, p.pattern.Bounded) :
    g.part.pattern.Bounded := by
  induction h with
  | finish | close =>
      exact Part.bounded_choice (List.forall_mem_cons.mpr ⟨Part.bounded_row hparts, hbranches⟩)
  | branch _ _ ih =>
      exact ih (List.forall_mem_cons.mpr ⟨Part.bounded_row hparts, hbranches⟩) nofun
  | flags _ _ _ ih => exact ih hbranches (List.forall_mem_cons.mpr ⟨trivial, hparts⟩)
  | unnamed _ _ _ _ ihinner ih | remembered _ _ _ _ ihinner ih =>
      exact ih hbranches (List.forall_mem_cons.mpr ⟨ihinner nofun nofun, hparts⟩)
  | bracket _ _ _ ih =>
      exact ih hbranches (List.forall_mem_cons.mpr ⟨bounded_ofChars _, hparts⟩)
  | again hbounds hpart _ ih =>
      obtain ⟨hlast, hbefore⟩ := List.forall_mem_cons.mp hparts
      refine ih hbranches (List.forall_mem_cons.mpr ⟨?_, hbefore⟩)
      have hmet := Bounded.repeated hlast (readRepetition?_le hbounds)
      obtain ⟨-, ⟨rfl, -⟩ | ⟨rfl, -⟩⟩ := repeated?_eq_some hpart
      · exact hmet _
      · exact hmet _
  | primitive _ _ hread _ ih =>
      exact ih hbranches (List.forall_mem_cons.mpr ⟨bounded_of_readPrimitive hread, hparts⟩)

end Pattern
end ProvisionWatch

import ProvisionWatch.Pattern.Bracket
import ProvisionWatch.Proofs.Pattern.Sight

/-!
# How far a reader of classes sees

A class in brackets ends at its own bracket, and a closing parenthesis in it is
a character like any other.  Whether a hyphen makes a range is told by what
follows it, and no closing parenthesis decides that.  Whether a name stands
between colons may be looked for beyond the class, but no name holds a closing
parenthesis.

Main results:

- Theorem `Flags.following_iff`: what follows a hyphen is the same ahead.
- Theorem `readClassRange_local`: reading a range is local.
- Theorem `readClass_local`: so is reading a class.
-/

namespace ProvisionWatch
namespace Pattern

/-! ## What follows -/

theorem SameAhead.dropBlanks {rest rest' : List Char} (h : SameAhead rest rest') :
    SameAhead (rest.dropWhile Text.isBlank) (rest'.dropWhile Text.isBlank) := by
  have hparen : Text.isBlank ')' = false := rfl
  induction h with
  | close rest rest' => simpa [hparen] using SameAhead.close rest rest'
  | stop rest => simpa [hparen] using SameAhead.stop rest
  | next c h ih =>
      by_cases hc : Text.isBlank c = true
      · simpa [hc] using ih
      · simpa [hc] using h.next c

theorem head?_of_dropBlanks_nil {rest : List Char} (h : rest.dropWhile Text.isBlank = []) :
    ∀ c ∈ rest.head?, Text.isBlank c = true := by
  intro c hc
  cases rest with
  | nil => cases hc
  | cons d rest =>
      cases hc
      exact List.dropWhile_eq_nil_iff.mp h c List.mem_cons_self

theorem head?_of_dropBlanks_hash {rest comment : List Char}
    (h : rest.dropWhile Text.isBlank = '#' :: comment) :
    ∀ c ∈ rest.head?, Text.isBlank c = true ∨ c = '#' := by
  intro c hc
  cases rest with
  | nil => cases hc
  | cons d rest =>
      cases hc
      by_cases hblank : Text.isBlank c = true
      · exact .inl hblank
      · simp only [List.dropWhile_cons, hblank] at h
        cases h
        exact .inr rfl

namespace Flags

variable {f : Flags}

theorem following_of_comment {rest comment : List Char} (hspaced : f.spaced = true)
    (h : rest.dropWhile Text.isBlank = '#' :: comment) :
    f.following rest = ((comment.dropWhile Text.isBlank).head? <|> rest.head?) := by
  simp [following, hspaced, h]

theorem following_of_no_comment {rest next : List Char} {c : Char} (hspaced : f.spaced = true)
    (h : rest.dropWhile Text.isBlank = c :: next) (hc : c ≠ '#') :
    f.following rest = some c := by
  simp only [following, hspaced, h]
  split <;> simp_all

theorem following_of_blanks {rest : List Char} (hspaced : f.spaced = true)
    (h : rest.dropWhile Text.isBlank = []) : f.following rest = rest.head? := by
  simp [following, hspaced, h]

/-- What follows a place is the same ahead, unless it is a parenthesis, a blank or the start of a
comment. -/
theorem following_iff {c : Char} (hparen : c ≠ ')') (hblank : Text.isBlank c = false)
    (hhash : c ≠ '#') {rest rest' : List Char} (h : SameAhead rest rest') :
    f.following rest' = some c ↔ f.following rest = some c := by
  by_cases hspaced : f.spaced = true
  · have hahead := h.dropBlanks
    cases hfirst : rest.dropWhile Text.isBlank with
    | nil => exact absurd hfirst hahead.ne_nil
    | cons d more =>
        rw [hfirst] at hahead
        by_cases hd : d = '#'
        · subst hd
          obtain ⟨more', hfirst', hcomment⟩ := hahead.of_cons (by decide)
          rw [following_of_comment hspaced hfirst, following_of_comment hspaced hfirst']
          have hinside := hcomment.dropBlanks
          cases hsecond : more.dropWhile Text.isBlank with
          | nil => exact absurd hsecond hinside.ne_nil
          | cons e _ =>
              rw [hsecond] at hinside
              rcases hinside.nil_or_cons with hsecond' | ⟨_, hsecond'⟩
              · rw [hsecond'] at hinside ⊢
                cases hinside.eq_paren_of_nil
                have hno : rest'.head? ≠ some c := by
                  intro hhead
                  rcases head?_of_dropBlanks_hash hfirst' c hhead with hc | hc
                  · rw [hblank] at hc
                    cases hc
                  · exact hhash hc
                simpa [hno] using hparen.symm
              · rw [hsecond']
                simp
        · rw [following_of_no_comment hspaced hfirst hd]
          rcases hahead.nil_or_cons with hfirst' | ⟨_, hfirst'⟩
          · rw [hfirst'] at hahead
            cases hahead.eq_paren_of_nil
            have hno : rest'.head? ≠ some c := by
              intro hhead
              have hc := head?_of_dropBlanks_nil hfirst' c hhead
              rw [hblank] at hc
              cases hc
            simpa [following_of_blanks hspaced hfirst', hno] using hparen.symm
          · rw [following_of_no_comment hspaced hfirst' hd]
  · simpa [following, hspaced] using h.head?_iff hparen

end Flags

/-! ## Items and ranges -/

/-- An item that is no assertion is read in front of all that is the same ahead. -/
theorem readClassItem_local {f : Flags} {cs rest : List Char} {e : Escaped}
    (h : readClassItem f cs = some (e, rest)) (he : ∀ l, e ≠ .look l) :
    ∃ c used, cs = c :: used ++ rest ∧ ∀ {rest' : List Char}, SameAhead rest rest' →
      readClassItem f (c :: used ++ rest') = some (e, rest') := by
  unfold readClassItem at h
  split at h
  · obtain ⟨used, rfl, hback⟩ := readEscape_local h
    exact ⟨'\\', used, rfl, fun hsame => hback hsame fun l hl => absurd hl (he l)⟩
  · rename_i c next hslash
    cases h
    refine ⟨c, [], rfl, fun {rest'} _ => ?_⟩
    show readClassItem f (c :: rest') = _
    unfold readClassItem
    split <;> simp_all
  · cases h

/-- Whether what stands behind an item makes it the start of a range. -/
def IsRange (f : Flags) (rest : List Char) : Prop :=
  rest.head? = some '-' ∧ f.following rest.tail ≠ some ']' ∧ f.following rest.tail ≠ some '-'

instance (f : Flags) (rest : List Char) : Decidable (IsRange f rest) :=
  inferInstanceAs (Decidable (_ ∧ _ ∧ _))

theorem isRange_iff {f : Flags} {rest rest' : List Char} (h : SameAhead rest rest') :
    IsRange f rest' ↔ IsRange f rest := by
  unfold IsRange
  rw [h.head?_iff (by decide)]
  refine and_congr_right fun hhyphen => ?_
  obtain ⟨next, rfl⟩ := List.head?_eq_some_iff.mp hhyphen
  obtain ⟨next', rfl, hnext⟩ := h.of_cons (by decide)
  exact and_congr (not_congr (Flags.following_iff (by decide) (by decide) (by decide) hnext))
    (not_congr (Flags.following_iff (by decide) (by decide) (by decide) hnext))

/-- The characters of a range between two items. -/
def rangeOf (f : Flags) : Escaped → Escaped → Option CharSet
  | .char least, .char greatest => do
      let least ← f.classChar least
      let greatest ← f.classChar greatest
      if least ≤ greatest then some { stretches := [{ first := least, last := greatest }] }
      else none
  | _, _ => none

/-- The characters of an item. -/
def itemChars (f : Flags) : Escaped → Option CharSet
  | .char n => (f.classChar n).map .single
  | .chars chars => some chars
  | .look _ => none

theorem readClassRange_eq (f : Flags) (cs : List Char) :
    readClassRange f cs = (readClassItem f cs).bind fun x =>
      if IsRange f (f.skip x.2) then
        (readClassItem f (f.skip (f.skip x.2).tail)).bind fun y =>
          (rangeOf f x.1 y.1).map fun chars => (chars, y.2)
      else (itemChars f x.1).map fun chars => (chars, f.skip x.2) := by
  unfold readClassRange
  refine congrArg (Option.bind _) (funext fun ⟨item, next⟩ => ?_)
  dsimp only
  by_cases hrange : IsRange f (f.skip next)
  · rw [if_pos hrange]
    refine (if_pos hrange).trans (congrArg (Option.bind _) (funext fun ⟨last, rest⟩ => ?_))
    cases item with
    | char least =>
        cases last with
        | char greatest =>
            simp only [rangeOf]
            cases f.classChar least with
            | none => rfl
            | some least =>
                cases f.classChar greatest with
                | none => rfl
                | some greatest =>
                    simp only [bind, Option.bind_some]
                    split <;> rfl
        | chars | look => rfl
    | chars | look => rfl
  · rw [if_neg hrange]
    refine (if_neg hrange).trans ?_
    cases item with
    | char n =>
        simp only [itemChars, Option.map_map]
        rfl
    | chars | look => rfl

theorem rangeOf_ne_look {f : Flags} {item last : Escaped} {chars : CharSet}
    (h : rangeOf f item last = some chars) : (∀ l, item ≠ .look l) ∧ ∀ l, last ≠ .look l := by
  cases item <;> cases last <;> first | cases h | exact ⟨nofun, nofun⟩

theorem itemChars_ne_look {f : Flags} {item : Escaped} {chars : CharSet}
    (h : itemChars f item = some chars) : ∀ l, item ≠ .look l := by
  cases item with
  | look => cases h
  | char | chars => exact nofun

theorem readClassRange_local {f : Flags} {cs rest : List Char} {chars : CharSet}
    (h : readClassRange f cs = some (chars, rest)) :
    ∃ c used, cs = c :: used ++ rest ∧ ∀ {rest' : List Char}, SameAhead rest rest' →
      readClassRange f (c :: used ++ rest') = some (chars, rest') := by
  rw [readClassRange_eq] at h
  obtain ⟨⟨item, next⟩, hitem, h⟩ := Option.bind_eq_some_iff.mp h
  obtain ⟨skipped, hnext, hskip⟩ := f.exists_skipped next
  dsimp only at h
  split at h
  · rename_i hrange
    obtain ⟨⟨last, tail⟩, hlast, h⟩ := Option.bind_eq_some_iff.mp h
    obtain ⟨_, hchars, h⟩ := Option.map_eq_some_iff.mp h
    cases h
    obtain ⟨hitem', hlast'⟩ := rangeOf_ne_look hchars
    obtain ⟨c, used, rfl, hback⟩ := readClassItem_local hitem hitem'
    obtain ⟨behind, hhyphen⟩ := List.head?_eq_some_iff.mp hrange.1
    rw [hhyphen, List.tail_cons] at hlast
    obtain ⟨skipped', hbehind, hskip'⟩ := f.exists_skipped behind
    obtain ⟨d, used', hlast, hback'⟩ := readClassItem_local hlast hlast'
    rw [hhyphen] at hnext hskip
    rw [hhyphen] at hrange
    refine ⟨c, used ++ (skipped ++ '-' :: (skipped' ++ d :: used')), ?_, fun {rest'} hsame => ?_⟩
    · have htext : c :: (used ++ (skipped ++ '-' :: (skipped' ++ d :: used'))) ++ tail =
          c :: used ++ (skipped ++ '-' :: (skipped' ++ (d :: used' ++ tail))) := by simp
      rw [htext, ← hlast, ← hbehind, ← hnext]
    · -- the texts are the same ahead of each place, from the last one to the first
      have hlast' : SameAhead (f.skip behind) (d :: used' ++ rest') := by
        rw [hlast]
        exact hsame.append (d :: used')
      have hbehind' := hlast'.of_append hbehind
      have hnext' := (hbehind'.next '-').of_append hnext
      have htext : c :: (used ++ (skipped ++ '-' :: (skipped' ++ d :: used'))) ++ rest' =
          c :: used ++ (skipped ++ '-' :: (skipped' ++ (d :: used' ++ rest'))) := by simp
      rw [htext, readClassRange_eq, hback hnext', Option.bind_some]
      dsimp only
      rw [hskip (hbehind'.next '-'), if_pos ((isRange_iff (hbehind'.next '-')).mpr hrange),
        List.tail_cons, hskip' hlast', hback' hsame, Option.bind_some, hchars]
      rfl
  · rename_i hrange
    obtain ⟨_, hchars, h⟩ := Option.map_eq_some_iff.mp h
    cases h
    obtain ⟨c, used, rfl, hback⟩ := readClassItem_local hitem (itemChars_ne_look hchars)
    refine ⟨c, used ++ skipped, by simp [← hnext], fun {rest'} hsame => ?_⟩
    have hahead : SameAhead next (skipped ++ rest') := by
      rw [hnext]
      exact hsame.append skipped
    have htext : c :: (used ++ skipped) ++ rest' = c :: used ++ (skipped ++ rest') := by simp
    rw [htext, readClassRange_eq, hback hahead, Option.bind_some]
    dsimp only
    rw [hskip hsame, if_neg (mt (isRange_iff hsame).mp hrange), hchars]
    rfl

/-! ## Names between colons -/

theorem isLower_of_ofName? {name : List Char}
    (h : (Flags.ofName? (String.ofList name)).isSome = true) : ∀ c ∈ name, c.isLower = true := by
  have hname : ∀ text : String, (Flags.ofName? text).isSome = true →
      text.toList.all Char.isLower = true := by
    intro text htext
    unfold Flags.ofName? at htext
    split at htext <;> first | decide | cases htext
  simpa using hname _ h

/-- A name as it stands between colons, behind the opening bracket. -/
def namedText (negated : Bool) (name : List Char) : List Char :=
  ':' :: ((if negated then ['^'] else []) ++ name ++ [':', ']'])

theorem not_paren_of_mem_namedText {negated : Bool} {name : List Char}
    (h : (Flags.ofName? (String.ofList name)).isSome = true) : ')' ∉ namedText negated name := by
  have hname : ')' ∉ name := fun hmem => absurd (isLower_of_ofName? h _ hmem) (by decide)
  cases negated <;> simp [namedText, hname]

/-- Whether a circumflex stands in front, and the rest. -/
def circumflex? : List Char → Bool × List Char
  | '^' :: rest => (true, rest)
  | rest => (false, rest)

theorem eq_of_circumflex? (cs : List Char) :
    cs = (if (circumflex? cs).1 then ['^'] else []) ++ (circumflex? cs).2 := by
  unfold circumflex?
  split <;> rfl

theorem circumflex?_of_head {cs : List Char} (h : cs.head? ≠ some '^') :
    circumflex? cs = (false, cs) := by
  unfold circumflex?
  split
  · exact absurd rfl h
  · rfl

theorem readNamedClass_colon (cs : List Char) :
    readNamedClass (':' :: cs) =
      match (circumflex? cs).2.drop ((circumflex? cs).2.takeWhile fun c => c != ':').length with
      | ':' :: ']' :: rest =>
          if (Flags.ofName?
              (String.ofList ((circumflex? cs).2.takeWhile fun c => c != ':'))).isSome then
            some ((circumflex? cs).1, (circumflex? cs).2.takeWhile fun c => c != ':', rest)
          else none
      | _ => none :=
  rfl

theorem eq_of_readNamedClass {cs name rest : List Char} {negated : Bool}
    (h : readNamedClass cs = some (negated, name, rest)) :
    cs = namedText negated name ++ rest ∧
      (Flags.ofName? (String.ofList name)).isSome = true := by
  unfold readNamedClass at h
  split at h
  · rename_i cs
    have hcs := eq_of_circumflex? cs
    change readNamedClass (':' :: cs) = _ at h
    rw [readNamedClass_colon] at h
    have hsplit := List.take_append_drop
      ((circumflex? cs).2.takeWhile fun c => c != ':').length (circumflex? cs).2
    rw [← List.prefix_iff_eq_take.mp (List.takeWhile_prefix _)] at hsplit
    split at h
    · rename_i next hnext
      split at h
      · rename_i hname
        cases h
        refine ⟨?_, hname⟩
        rw [hnext] at hsplit
        rw [← hsplit] at hcs
        simpa [namedText] using hcs
      · cases h
    · cases h
  · cases h

theorem readNamedClass_namedText {negated : Bool} {name : List Char}
    (h : (Flags.ofName? (String.ofList name)).isSome = true) (rest : List Char) :
    readNamedClass (namedText negated name ++ rest) = some (negated, name, rest) := by
  have hlower := isLower_of_ofName? h
  have hname : (name ++ ':' :: ']' :: rest).takeWhile (fun c => c != ':') = name := by
    rw [List.takeWhile_append, List.takeWhile_eq_self_iff.mpr]
    · simp
    · intro c hc
      have := hlower c hc
      simp only [bne_iff_ne, ne_eq]
      rintro rfl
      cases this
  have hnegation : circumflex? ((if negated then ['^'] else []) ++ (name ++ ':' :: ']' :: rest)) =
      (negated, name ++ ':' :: ']' :: rest) := by
    cases negated with
    | true => rfl
    | false =>
        refine circumflex?_of_head ?_
        cases name with
        | nil => simp
        | cons c name =>
            intro hhead
            cases hhead
            cases hlower '^' List.mem_cons_self
  have htext : namedText negated name ++ rest =
      ':' :: ((if negated then ['^'] else []) ++ (name ++ ':' :: ']' :: rest)) := by
    simp [namedText]
  rw [htext, readNamedClass_colon, hnegation]
  simp [hname, h]

theorem SameAhead.of_append_right {text : List Char} (htext : ')' ∉ text) {rest rest' : List Char}
    (h : SameAhead rest (text ++ rest')) : ∃ r, rest = text ++ r := by
  induction text generalizing rest with
  | nil => exact ⟨rest, rfl⟩
  | cons c text ih =>
      obtain ⟨hc, htext⟩ := not_or.mp (mt List.mem_cons.mpr htext)
      obtain ⟨next, rfl, hnext⟩ := h.of_cons_right (Ne.symm hc)
      obtain ⟨r, rfl⟩ := ih htext hnext
      exact ⟨r, rfl⟩

/-- If there is no name between colons, none appears where the text is the same ahead. -/
theorem readNamedClass_eq_none {cs cs' : List Char} (hsame : SameAhead cs cs')
    (h : readNamedClass cs = none) : readNamedClass cs' = none := by
  cases hread : readNamedClass cs' with
  | none => rfl
  | some found =>
      obtain ⟨negated, name, rest'⟩ := found
      obtain ⟨rfl, hname⟩ := eq_of_readNamedClass hread
      obtain ⟨rest, rfl⟩ := hsame.of_append_right (not_paren_of_mem_namedText hname)
      rw [readNamedClass_namedText hname] at h
      cases h

/-! ## The start of a class -/

theorem readClassStart_stop {f : Flags} {fuel : Nat} {l : ClassList} {cs : List Char}
    (hhyphen : cs.head? ≠ some '-') (hbracket : cs.head? = some ']' → l.count ≠ 0) :
    readClassStart f fuel l cs = (l, cs) := by
  unfold readClassStart
  split
  · exact absurd rfl hhyphen
  · exact if_neg (hbracket rfl)
  · rfl

theorem readClassStart_bracket {f : Flags} {fuel : Nat} {l : ClassList} (hcount : l.count = 0)
    (rest : List Char) : readClassStart f fuel l (']' :: rest) =
      (l.add { chars := .single 93, depth := 0 }, f.skip rest) := by
  cases fuel <;> exact if_pos hcount

/-- What stands for itself at the start of a class is read in front of all that is the same
ahead. -/
theorem exists_classStart {f : Flags} {fuel : Nat} {l : ClassList} {cs : List Char}
    (hfuel : cs.length ≤ fuel) :
    ∃ used, cs = used ++ (readClassStart f fuel l cs).2 ∧
      ∀ {rest' : List Char} {fuel' : Nat}, SameAhead (readClassStart f fuel l cs).2 rest' →
        (used ++ rest').length ≤ fuel' →
          readClassStart f fuel' l (used ++ rest') = ((readClassStart f fuel l cs).1, rest') := by
  induction fuel generalizing l cs with
  | zero =>
      rw [List.length_eq_zero_iff.mp (Nat.le_zero.mp hfuel)]
      exact ⟨[], rfl, fun h => absurd rfl h.ne_nil⟩
  | succ fuel ih =>
      by_cases hhyphen : cs.head? = some '-'
      · obtain ⟨next, rfl⟩ := List.head?_eq_some_iff.mp hhyphen
        obtain ⟨skipped, hnext, hskip⟩ := f.exists_skipped next
        have hlength : (f.skip next).length ≤ fuel := by
          have := congrArg List.length hnext
          simp at this hfuel
          omega
        obtain ⟨used, hused, hback⟩ := @ih (l.add { chars := .single 45, depth := 0 }) _ hlength
        refine ⟨'-' :: (skipped ++ used), ?_, fun {rest' fuel'} hsame hlength => ?_⟩
        · show '-' :: next = '-' :: (skipped ++ used) ++ (readClassStart f fuel _ (f.skip next)).2
          rw [List.cons_append, List.append_assoc, ← hused, ← hnext]
        · obtain ⟨fuel', rfl⟩ : ∃ n, fuel' = n + 1 := ⟨fuel' - 1, by simp at hlength; omega⟩
          have hahead := hsame.append used
          show readClassStart f fuel' _ (f.skip (skipped ++ used ++ rest')) = _
          rw [List.append_assoc, hskip (hused ▸ hahead)]
          exact hback hsame (by simp at hlength ⊢; omega)
      · by_cases hbracket : cs.head? = some ']' ∧ l.count = 0
        · obtain ⟨hhead, hcount⟩ := hbracket
          obtain ⟨next, rfl⟩ := List.head?_eq_some_iff.mp hhead
          obtain ⟨skipped, hnext, hskip⟩ := f.exists_skipped next
          rw [readClassStart_bracket hcount]
          refine ⟨']' :: skipped, by simp [← hnext], fun {rest' fuel'} hsame _ => ?_⟩
          rw [List.cons_append, readClassStart_bracket hcount, hskip hsame]
        · have hstop : cs.head? = some ']' → l.count ≠ 0 := fun h h' => hbracket ⟨h, h'⟩
          rw [readClassStart_stop hhyphen hstop]
          refine ⟨[], rfl, fun {rest' fuel'} hsame _ => ?_⟩
          rw [List.nil_append]
          exact readClassStart_stop (mt (hsame.head?_iff (by decide)).mp hhyphen)
            (hstop ∘ (hsame.head?_iff (by decide)).mp)

/-- What stands in front of the items of a class: whether a circumflex does, and what stands for
itself. -/
def classHead (f : Flags) (cs : List Char) : Bool × ClassList × List Char :=
  let cs := f.skip cs
  let negated := cs.head? == some '^'
  let cs := if negated then f.skip cs.tail else cs
  (negated, readClassStart f cs.length .none cs)

theorem classHead_of_circumflex {f : Flags} {cs next : List Char} (h : f.skip cs = '^' :: next) :
    classHead f cs =
      (true, readClassStart f (f.skip next).length .none (f.skip next)) := by
  simp [classHead, h]

theorem classHead_of_no_circumflex {f : Flags} {cs : List Char}
    (h : (f.skip cs).head? ≠ some '^') :
    classHead f cs = (false, readClassStart f (f.skip cs).length .none (f.skip cs)) := by
  simp [classHead, h]

theorem exists_classHead (f : Flags) (cs : List Char) :
    ∃ used, cs = used ++ (classHead f cs).2.2 ∧
      ∀ {rest' : List Char}, SameAhead (classHead f cs).2.2 rest' →
        classHead f (used ++ rest') = ((classHead f cs).1, (classHead f cs).2.1, rest') := by
  by_cases hhead : (f.skip cs).head? = some '^'
  · obtain ⟨next, hnext⟩ := List.head?_eq_some_iff.mp hhead
    obtain ⟨skipped, hcs, hskip⟩ := Flags.exists_skipped_cons hnext
    obtain ⟨skipped', hcs', hskip'⟩ := f.exists_skipped next
    obtain ⟨used, hused, hback⟩ :=
      @exists_classStart f _ ClassList.none (f.skip next) (Nat.le_refl _)
    rw [classHead_of_circumflex hnext]
    refine ⟨skipped ++ '^' :: (skipped' ++ used), ?_, fun {rest'} hsame => ?_⟩
    · have htext : skipped ++ '^' :: (skipped' ++ used) ++
          (readClassStart f (f.skip next).length .none (f.skip next)).2 =
            skipped ++ '^' :: (skipped' ++ (used ++
              (readClassStart f (f.skip next).length .none (f.skip next)).2)) := by simp
      rw [htext, ← hused, ← hcs', ← hcs]
    · have hahead := hsame.of_append hused
      have hnext' := hahead.of_append hcs'
      have htext : skipped ++ '^' :: (skipped' ++ used) ++ rest' =
          skipped ++ '^' :: (skipped' ++ (used ++ rest')) := by simp
      rw [htext, classHead_of_circumflex (hskip hnext'), hskip' hahead,
        hback hsame (Nat.le_refl _)]
  · obtain ⟨skipped, hcs, hskip⟩ := f.exists_skipped cs
    obtain ⟨used, hused, hback⟩ :=
      @exists_classStart f _ ClassList.none (f.skip cs) (Nat.le_refl _)
    rw [classHead_of_no_circumflex hhead]
    refine ⟨skipped ++ used, ?_, fun {rest'} hsame => ?_⟩
    · rw [List.append_assoc, ← hused, ← hcs]
    · have hahead := hsame.of_append hused
      have hskip' := hskip hahead
      rw [List.append_assoc, classHead_of_no_circumflex, hskip', hback hsame (Nat.le_refl _)]
      rw [hskip']
      exact mt (hahead.head?_iff (by decide)).mp hhead

/-! ## Classes -/

theorem readClass_succ (fuel : Nat) (f : Flags) (cs : List Char) :
    readClass (fuel + 1) f cs =
      (readClassItems fuel f none (classHead f cs).2.1 (classHead f cs).2.2).bind fun x =>
        (f.choose (classHead f cs).1 (f.fold x.1.chars)).bind fun chars =>
          some ({ chars := chars, depth := x.1.depth + 1 }, x.2) := by
  rw [readClass]
  rfl

/-- The operation that two of a character stand for. -/
def opOf? : Char → Option ClassOp
  | '&' => some .inter
  | '-' => some .without
  | '~' => some .either
  | _ => none

section Items

variable {fuel : Nat} {f : Flags} {pending : Option (ClassOp × ReadClass)} {l : ClassList}
  {cs rest : List Char}

theorem readClassItems_nil (h : f.skip cs = []) :
    readClassItems (fuel + 1) f pending l cs = none := by
  rw [readClassItems, h]

theorem readClassItems_close (h : f.skip cs = ']' :: rest) :
    readClassItems (fuel + 1) f pending l cs = some (l.behind f pending, rest) := by
  rw [readClassItems, h]
  rfl

theorem readClassItems_named {negated : Bool} {name next : List Char}
    (h : f.skip cs = '[' :: rest) (hname : readNamedClass rest = some (negated, name, next)) :
    readClassItems (fuel + 1) f pending l cs = (f.namedClass negated name).bind fun chars =>
      readClassItems fuel f pending (l.add { chars := chars, depth := 0 }) next := by
  rw [readClassItems, h]
  simp only [hname]
  rfl

theorem readClassItems_nested (h : f.skip cs = '[' :: rest) (hname : readNamedClass rest = none) :
    readClassItems (fuel + 1) f pending l cs = (readClass fuel f rest).bind fun x =>
      readClassItems fuel f pending (l.add x.1) x.2 := by
  rw [readClassItems, h]
  simp only [hname]
  rfl

theorem readClassItems_op {c : Char} {op : ClassOp} (h : f.skip cs = c :: c :: rest)
    (hop : opOf? c = some op) :
    readClassItems (fuel + 1) f pending l cs =
      readClassItems fuel f (some (op, l.behind f pending)) .none rest := by
  unfold opOf? at hop
  split at hop <;> cases hop
  all_goals
    rw [readClassItems, h]
    rfl

theorem readClassItems_range {c : Char} (h : f.skip cs = c :: rest) (hclose : c ≠ ']')
    (hopen : c ≠ '[') (hop : ∀ op, opOf? c = some op → rest.head? ≠ some c) :
    readClassItems (fuel + 1) f pending l cs = (readClassRange f (c :: rest)).bind fun x =>
      readClassItems fuel f pending (l.add { chars := x.1, depth := 0 }) x.2 := by
  rw [readClassItems, h]
  split
  · rename_i heq
    cases heq
  · rename_i heq
    cases heq
    exact absurd rfl hclose
  · rename_i heq
    cases heq
    exact absurd rfl hopen
  · rename_i heq
    cases heq
    exact absurd rfl (hop _ rfl)
  · rename_i heq
    cases heq
    exact absurd rfl (hop _ rfl)
  · rename_i heq
    cases heq
    exact absurd rfl (hop _ rfl)
  · rfl

end Items

/-- Reading is local, and whatever fuel it had, twice the length of the text and a little more is
enough. -/
def LocalFrom (extra : Nat) (read : Nat → List Char → Option (α × List Char)) (fuel : Nat) :
    Prop :=
  ∀ {cs : List Char} {a : α} {rest : List Char}, read fuel cs = some (a, rest) →
    ∃ used, cs = used ++ rest ∧ ∀ {rest' : List Char} {fuel' : Nat}, SameAhead rest rest' →
      2 * (used ++ rest').length + extra ≤ fuel' → read fuel' (used ++ rest') = some (a, rest')

/-- The items of a class that were read of a text are read in front of all that is the same
ahead. -/
def ItemsLocalAt (f : Flags) (pending : Option (ClassOp × ReadClass)) (l : ClassList)
    (cs : List Char) (c : ReadClass) (rest : List Char) : Prop :=
  ∃ used, cs = used ++ rest ∧ ∀ {rest' : List Char} {fuel' : Nat}, SameAhead rest rest' →
    2 * (used ++ rest').length + 1 ≤ fuel' →
      readClassItems fuel' f pending l (used ++ rest') = some (c, rest')

section FirstItem

variable {fuel : Nat} {f : Flags} {pending : Option (ClassOp × ReadClass)} {l : ClassList}
  {cs next rest : List Char} {c : ReadClass}

/-- The end of a class is seen in front of all that is the same ahead. -/
theorem itemsLocalAt_close (hnext : f.skip cs = ']' :: next)
    (h : readClassItems (fuel + 1) f pending l cs = some (c, rest)) :
    ItemsLocalAt f pending l cs c rest := by
  obtain ⟨skipped, hcs, hskip⟩ := Flags.exists_skipped_cons hnext
  rw [readClassItems_close hnext] at h
  cases h
  refine ⟨skipped ++ [']'], by simp [hcs], fun {rest' fuel'} hsame hfuel => ?_⟩
  obtain ⟨fuel', rfl⟩ : ∃ n, fuel' = n + 1 := ⟨fuel' - 1, by omega⟩
  refine readClassItems_close ?_
  rw [List.append_assoc]
  exact hskip hsame

variable (hitems : ∀ f pending l, LocalFrom 1 (fun fuel => readClassItems fuel f pending l) fuel)
include hitems

/-- Where one item is read in front of all that is the same ahead, so are the items from it on. -/
theorem itemsLocalAt_of_first {d : Char} {inside behind : List Char}
    {pending' : Option (ClassOp × ReadClass)} {l' : ClassList}
    (hnext : f.skip cs = d :: (inside ++ behind))
    (hitem : readClassItems fuel f pending' l' behind = some (c, rest))
    (hstep : ∀ {fuel' : Nat} {behind' cs' : List Char}, SameAhead behind behind' →
      f.skip cs' = d :: (inside ++ behind') → 2 * (inside ++ behind').length + 2 ≤ fuel' →
      readClassItems (fuel' + 1) f pending l cs' = readClassItems fuel' f pending' l' behind') :
    ItemsLocalAt f pending l cs c rest := by
  obtain ⟨skipped, hcs, hskip⟩ := Flags.exists_skipped_cons hnext
  obtain ⟨used, hused, hback⟩ := hitems f pending' l' hitem
  refine ⟨skipped ++ d :: (inside ++ used), by simp [hcs, hused],
    fun {rest' fuel'} hsame hfuel => ?_⟩
  have hbehind := hsame.of_append hused
  have hahead := hbehind.append inside
  obtain ⟨fuel', rfl⟩ : ∃ n, fuel' = n + 1 := ⟨fuel' - 1, by omega⟩
  have htext : skipped ++ d :: (inside ++ used) ++ rest' =
      skipped ++ d :: (inside ++ (used ++ rest')) := by simp
  rw [htext] at hfuel ⊢
  rw [hstep hbehind (hskip hahead) (by simp at hfuel ⊢; omega)]
  exact hback hsame (by simp at hfuel ⊢; omega)

/-- First stands a class by its name. -/
theorem itemsLocalAt_named {found : Bool × List Char × List Char} (hnext : f.skip cs = '[' :: next)
    (hname : readNamedClass next = some found)
    (h : readClassItems (fuel + 1) f pending l cs = some (c, rest)) :
    ItemsLocalAt f pending l cs c rest := by
  obtain ⟨negated, name, behind⟩ := found
  rw [readClassItems_named hnext hname] at h
  obtain ⟨chars, hchars, hitem⟩ := Option.bind_eq_some_iff.mp h
  obtain ⟨rfl, hsome⟩ := eq_of_readNamedClass hname
  refine itemsLocalAt_of_first hitems hnext hitem fun _ hskip' _ => ?_
  rw [readClassItems_named hskip' (readNamedClass_namedText hsome _), hchars]
  rfl

/-- First stands a class in brackets. -/
theorem itemsLocalAt_nested (hclass : ∀ f, LocalFrom 2 (fun fuel => readClass fuel f) fuel)
    (hnext : f.skip cs = '[' :: next) (hname : readNamedClass next = none)
    (h : readClassItems (fuel + 1) f pending l cs = some (c, rest)) :
    ItemsLocalAt f pending l cs c rest := by
  rw [readClassItems_nested hnext hname] at h
  obtain ⟨⟨inner, behind⟩, hinner, hitem⟩ := Option.bind_eq_some_iff.mp h
  obtain ⟨inside, rfl, hback⟩ := hclass f hinner
  refine itemsLocalAt_of_first hitems hnext hitem fun {fuel' behind' _} hbehind hskip' hfuel => ?_
  have hahead := hbehind.append inside
  have hinner' : readClass fuel' f (inside ++ behind') = some (inner, behind') :=
    hback hbehind hfuel
  rw [readClassItems_nested hskip' (readNamedClass_eq_none hahead hname), hinner']
  rfl

/-- First stands an operation. -/
theorem itemsLocalAt_op {d : Char} {op : ClassOp} (hnext : f.skip cs = d :: d :: next)
    (hop : opOf? d = some op)
    (h : readClassItems (fuel + 1) f pending l cs = some (c, rest)) :
    ItemsLocalAt f pending l cs c rest := by
  rw [readClassItems_op hnext hop] at h
  have hnext' : f.skip cs = d :: ([d] ++ next) := hnext
  exact itemsLocalAt_of_first hitems hnext' h fun _ hskip' _ => readClassItems_op hskip' hop

/-- First stands a character or a range. -/
theorem itemsLocalAt_range {d : Char} (hnext : f.skip cs = d :: next) (hclose : d ≠ ']')
    (hopen : d ≠ '[') (hop : ∀ op, opOf? d = some op → next.head? ≠ some d)
    (h : readClassItems (fuel + 1) f pending l cs = some (c, rest)) :
    ItemsLocalAt f pending l cs c rest := by
  rw [readClassItems_range hnext hclose hopen hop] at h
  obtain ⟨⟨chars, behind⟩, hrange, hitem⟩ := Option.bind_eq_some_iff.mp h
  obtain ⟨e, inside, heq, hback⟩ := readClassRange_local hrange
  rw [List.cons_append] at heq
  obtain ⟨rfl, rfl⟩ := List.cons.inj heq
  refine itemsLocalAt_of_first hitems hnext hitem fun {fuel' behind' cs'} hbehind hskip' _ => ?_
  have hahead := hbehind.append inside
  have hop' : ∀ op, opOf? d = some op → (inside ++ behind').head? ≠ some d := by
    intro op hd hhead
    have hparen : d ≠ ')' := by
      rintro rfl
      cases hd
    exact hop op hd ((hahead.head?_iff hparen).mp hhead)
  rw [readClassItems_range hskip' hclose hopen hop', ← List.cons_append, hback hbehind]
  rfl

end FirstItem

/-- The items of a class are read in front of all that is the same ahead, if the first is. -/
theorem readClassItems_localFrom {fuel : Nat}
    (hclass : ∀ f, LocalFrom 2 (fun fuel => readClass fuel f) fuel)
    (hitems : ∀ f pending l, LocalFrom 1 (fun fuel => readClassItems fuel f pending l) fuel)
    (f : Flags) (pending : Option (ClassOp × ReadClass)) (l : ClassList) :
    LocalFrom 1 (fun fuel => readClassItems fuel f pending l) (fuel + 1) := by
  intro cs c rest h
  show ItemsLocalAt f pending l cs c rest
  cases hnext : f.skip cs with
  | nil =>
      dsimp only at h
      rw [readClassItems_nil hnext] at h
      cases h
  | cons d next =>
      by_cases hclose : d = ']'
      · exact itemsLocalAt_close (hclose ▸ hnext) h
      by_cases hopen : d = '['
      · cases hname : readNamedClass next with
        | some found => exact itemsLocalAt_named hitems (hopen ▸ hnext) hname h
        | none => exact itemsLocalAt_nested hitems hclass (hopen ▸ hnext) hname h
      by_cases hop : ∃ op, opOf? d = some op ∧ next.head? = some d
      · obtain ⟨op, hop, hhead⟩ := hop
        obtain ⟨behind, rfl⟩ := List.head?_eq_some_iff.mp hhead
        exact itemsLocalAt_op hitems hnext hop h
      · exact itemsLocalAt_range hitems hnext hclose hopen (fun op h h' => hop ⟨op, h, h'⟩) h

theorem class_localFrom (fuel : Nat) :
    (∀ f, LocalFrom 2 (fun fuel => readClass fuel f) fuel) ∧
      ∀ f pending l, LocalFrom 1 (fun fuel => readClassItems fuel f pending l) fuel := by
  induction fuel with
  | zero =>
      refine ⟨fun f => ?_, fun f pending l => ?_⟩
      · intro cs c rest h
        dsimp only at h
        rw [readClass] at h
        cases h
      · intro cs c rest h
        dsimp only at h
        rw [readClassItems] at h
        cases h
  | succ fuel ih =>
      refine ⟨fun f => ?_, readClassItems_localFrom ih.1 ih.2⟩
      intro cs c rest h
      dsimp only at h
      rw [readClass_succ] at h
      obtain ⟨⟨inner, behind⟩, hitems, h⟩ := Option.bind_eq_some_iff.mp h
      obtain ⟨chars, hchars, h⟩ := Option.bind_eq_some_iff.mp h
      cases h
      obtain ⟨head, hcs, hhead⟩ := exists_classHead f cs
      obtain ⟨used, hused, hback⟩ := ih.2 f _ _ hitems
      refine ⟨head ++ used, by rw [List.append_assoc, ← hused, ← hcs],
        fun {rest' fuel'} hsame hfuel => ?_⟩
      have hahead := hsame.of_append hused
      obtain ⟨fuel', rfl⟩ : ∃ n, fuel' = n + 1 := ⟨fuel' - 1, by omega⟩
      have hitems' := @hback rest' fuel' hsame (by simp at hfuel ⊢; omega)
      dsimp only at hitems' ⊢
      rw [List.append_assoc, readClass_succ, hhead hahead, hitems', Option.bind_some]
      dsimp only
      rw [hchars]
      rfl

/-- A class is read in front of all that is the same ahead. -/
theorem readClass_local (f : Flags) : Local fun cs => readClass (2 * cs.length + 2) f cs := by
  intro cs c rest h
  obtain ⟨used, hcs, hback⟩ := (class_localFrom _).1 f h
  exact ⟨used, hcs, fun hsame => hback hsame (Nat.le_refl _)⟩

end Pattern
end ProvisionWatch

import ProvisionWatch.Pattern.Reader
import ProvisionWatch.Proofs.Pattern.Rows
import ProvisionWatch.Proofs.Pattern.SightInClasses

/-!
# How far a reader of groups sees

What opens a group, how often a part is repeated, and single characters and
assertions are read without a look at what stands behind the enclosing group.
Only a boundary looks further: behind it the name of an assertion may stand in
braces.  Where the braces hold the bounds of a repetition instead, no name
stands there, wherever the text ends.

Main results:

- Theorem `readBounds_local`: reading the bounds of a repetition is local, and
  the bounds can be met.
- Theorem `readOpening_local`: so is reading what opens a group.
- Theorem `readPrimitive_local`: so is reading a character, up to the name of an
  assertion.
-/

namespace ProvisionWatch
namespace Pattern

variable {f : Flags}

/-! ## Numbers and bounds -/

theorem exists_dropped (test : Char → Bool) (cs : List Char) :
    ∃ used, cs = used ++ cs.dropWhile test ∧ ∀ {rest' : List Char},
      SameAhead (cs.dropWhile test) rest' → (used ++ rest').dropWhile test = rest' := by
  cases hdropped : cs.dropWhile test with
  | nil => exact ⟨cs, by simp, fun h => absurd rfl h.ne_nil⟩
  | cons c rest =>
      obtain ⟨-, used, hused, hback⟩ := dropWhile_eq_cons hdropped
      exact ⟨used, hused, fun h => hback h.nil_or_cons⟩

/-- The digits of a number, and what stands behind it and the blanks that follow. -/
def countDigits (f : Flags) (cs : List Char) : List Char × List Char :=
  f.readWhile (fun c => (Text.digitValue? c).isSome) (cs.dropWhile Text.isBlank).length
    (cs.dropWhile Text.isBlank)

theorem readCount_eq (f : Flags) (cs : List Char) :
    readCount f cs = ((Text.ofDigits (countDigits f cs).1).filter fun n => n < 4294967296).map
      fun n => (n, (f.readWhile Text.isBlank (countDigits f cs).2.length
        (countDigits f cs).2).2) := by
  simp only [readCount, countDigits]
  split
  · rename_i h
    rw [h]
    rfl
  · rename_i h
    rw [h]
    rfl

theorem readCount_local (f : Flags) : Local (readCount f) := by
  intro cs n rest h
  rw [readCount_eq] at h
  obtain ⟨_, hdigits, h⟩ := Option.map_eq_some_iff.mp h
  cases h
  obtain ⟨blanks, hcs, hblanks⟩ := exists_dropped Text.isBlank cs
  obtain ⟨digits, hnumber, hback⟩ := @Flags.exists_readWhile f
    (fun c => (Text.digitValue? c).isSome) _ (cs.dropWhile Text.isBlank) (Nat.le_refl _)
  obtain ⟨used, hused, hback'⟩ := @Flags.exists_readWhile f Text.isBlank _ (countDigits f cs).2
    (Nat.le_refl _)
  refine ⟨blanks ++ (digits ++ used), ?_, fun {rest'} hsame => ?_⟩
  · rw [List.append_assoc, List.append_assoc, ← hused]
    change cs = blanks ++ (digits ++ (f.readWhile _ _ (cs.dropWhile Text.isBlank)).2)
    rw [← hnumber, ← hcs]
  · have hbehind := hsame.of_append hused
    have hahead := hbehind.append digits
    change SameAhead (digits ++ (f.readWhile _ _ (cs.dropWhile Text.isBlank)).2) _ at hahead
    rw [← hnumber] at hahead
    have hread : countDigits f (blanks ++ (digits ++ used) ++ rest') =
        ((countDigits f cs).1, used ++ rest') := by
      rw [countDigits, List.append_assoc, List.append_assoc, hblanks hahead,
        hback hbehind (Nat.le_refl _)]
      rfl
    rw [readCount_eq, hread, hdigits, hback' hsame (Nat.le_refl _)]
    rfl

/-- A number stands behind blanks only. -/
theorem head_of_readCount {cs rest : List Char} {n : Nat} (h : readCount f cs = some (n, rest)) :
    ∃ c r, cs = c :: r ∧ (Text.isBlank c = true ∨ (Text.digitValue? c).isSome = true) := by
  rw [readCount_eq] at h
  obtain ⟨_, hdigits, -⟩ := Option.map_eq_some_iff.mp h
  cases cs with
  | nil => cases hdigits
  | cons c cs =>
      refine ⟨c, cs, rfl, ?_⟩
      by_cases hblank : Text.isBlank c = true
      · exact .inl hblank
      · refine .inr ?_
        by_cases hdigit : (Text.digitValue? c).isSome = true
        · exact hdigit
        · simp [countDigits, hblank, Flags.readWhile, hdigit, Text.ofDigits] at hdigits

theorem code_of_isLookChar {c : Char} (h : isLookChar c = true) :
    c.toNat = 45 ∨ (65 ≤ c.toNat ∧ c.toNat ≤ 90) ∨ (97 ≤ c.toNat ∧ c.toNat ≤ 122) := by
  have h : (decide (65 ≤ c.val ∧ c.val ≤ 90) ||
    (decide (97 ≤ c.val) && decide (c.val ≤ 122)) || c == '-') = true := h
  simp only [Bool.or_eq_true, Bool.and_eq_true, decide_eq_true_eq, beq_iff_eq,
    UInt32.le_iff_toNat_le] at h
  rcases h with (h | h) | rfl
  · exact .inr (.inl h)
  · exact .inr (.inr h)
  · exact .inl rfl

theorem not_isLookChar {c : Char}
    (h : Text.isBlank c = true ∨ (Text.digitValue? c).isSome = true) : isLookChar c = false := by
  by_contra hlook
  have hcode := code_of_isLookChar (by simpa using hlook)
  rcases h with hblank | hdigit
  · simp only [Text.isBlank, Bool.or_eq_true, Bool.and_eq_true, decide_eq_true_eq,
      beq_iff_eq] at hblank
    omega
  · unfold Text.digitValue? at hdigit
    split at hdigit
    · rename_i hbounds
      have hleast : 48 ≤ c.toNat := hbounds.1
      have hgreatest : c.toNat ≤ 57 := hbounds.2
      omega
    · cases hdigit

/-- The bounds of a repetition, in one of their three forms. -/
inductive BoundsRead (f : Flags) : List Char → Nat → Option Nat → List Char → Prop where
  | exact {cs rest : List Char} {n : Nat} (h : readCount f (f.skip cs) = some (n, '\x7d' :: rest)) :
      BoundsRead f cs n (some n) rest
  | atLeast (next : List Char) {cs rest : List Char} {n : Nat}
      (h : readCount f (f.skip cs) = some (n, ',' :: next)) (hnext : f.skip next = '\x7d' :: rest) :
      BoundsRead f cs n none rest
  | between (next : List Char) {cs rest : List Char} {n m : Nat}
      (h : readCount f (f.skip cs) = some (n, ',' :: next))
      (hnext : (f.skip next).head? ≠ some '\x7d')
      (h' : readCount f (f.skip next) = some (m, '\x7d' :: rest)) (hle : n ≤ m) :
      BoundsRead f cs n (some m) rest

theorem readBounds_of_comma {cs next : List Char} {n : Nat}
    (h : readCount f (f.skip cs) = some (n, ',' :: next)) :
    readBounds f cs = if (f.skip next).head? = some '\x7d' then some (n, none, (f.skip next).tail)
      else (readCount f (f.skip next)).bind fun x => if x.2.head? = some '\x7d' ∧ n ≤ x.1 then
        some (n, some x.1, x.2.tail) else none := by
  unfold readBounds
  rw [h]
  refine Eq.trans (Option.bind_some _ _) ?_
  dsimp only
  split <;> rename_i hcomma
  · cases hcomma
  · cases hcomma
    split <;> rename_i hnext
    · simp [hnext]
    · rw [if_neg fun hhead => hnext _ (List.head?_eq_some_iff.mp hhead).choose_spec]
      refine congrArg _ (funext fun x => ?_)
      split <;> rename_i hx
      · simp [hx]
      · rw [if_neg fun hhead => hx _ (List.head?_eq_some_iff.mp hhead.1).choose_spec]
  · exact absurd rfl (hcomma next)

theorem readBounds_eq_some_iff {cs rest : List Char} {n : Nat} {m : Option Nat} :
    readBounds f cs = some (n, m, rest) ↔ BoundsRead f cs n m rest := by
  constructor
  · intro h
    obtain ⟨⟨least, behind⟩, hleast, h'⟩ := Option.bind_eq_some_iff.mp h
    dsimp only at h'
    split at h'
    · cases h'
      exact .exact hleast
    · rename_i next
      rw [readBounds_of_comma hleast] at h
      split_ifs at h with hnext
      · obtain ⟨r, hr⟩ := List.head?_eq_some_iff.mp hnext
        rw [hr] at h
        cases h
        exact .atLeast next hleast hr
      · obtain ⟨⟨most, behind'⟩, hmost, h⟩ := Option.bind_eq_some_iff.mp h
        dsimp only at h
        split_ifs at h with hbrace
        obtain ⟨r, rfl⟩ := List.head?_eq_some_iff.mp hbrace.1
        cases h
        exact .between next hleast hnext hmost hbrace.2
    · cases h'
  · intro h
    cases h with
    | exact h => exact Option.bind_eq_some_iff.mpr ⟨_, h, rfl⟩
    | atLeast next h hnext => simp [readBounds_of_comma h, hnext]
    | between next h hnext h' hle => simp [readBounds_of_comma h, hnext, h', hle]

theorem BoundsRead.le {cs rest : List Char} {n : Nat} {m : Option Nat}
    (h : BoundsRead f cs n m rest) : ∀ k ∈ m, n ≤ k := by
  cases h with
  | exact => rintro _ ⟨⟩; exact Nat.le_refl _
  | atLeast => exact nofun
  | between _ _ _ _ hle => rintro _ ⟨⟩; exact hle

/-- Skipping and then reading is local if reading is. -/
theorem Local.of_skip {read : List Char → Option (α × List Char)} (h : Local read) (f : Flags) :
    Local fun cs => read (f.skip cs) := by
  intro cs a rest hread
  obtain ⟨skipped, hcs, hskip⟩ := f.exists_skipped cs
  obtain ⟨used, hused, hback⟩ := h hread
  refine ⟨skipped ++ used, by rw [List.append_assoc, ← hused, ← hcs], fun hsame => ?_⟩
  have hahead := hsame.of_append hused
  dsimp only
  rw [List.append_assoc, hskip hahead]
  exact hback hsame

theorem readBounds_local (f : Flags) : Local fun cs =>
    (readBounds f cs).map fun (least, most, rest) => ((least, most), rest) := by
  intro cs bounds rest h
  obtain ⟨⟨n, m, _⟩, hread, h⟩ := Option.map_eq_some_iff.mp h
  cases h
  suffices hlocal : ∃ used, cs = used ++ rest ∧ ∀ {rest' : List Char}, SameAhead rest rest' →
      BoundsRead f (used ++ rest') n m rest' by
    obtain ⟨used, hused, hback⟩ := hlocal
    exact ⟨used, hused, fun hsame =>
      Option.map_eq_some_iff.mpr ⟨_, readBounds_eq_some_iff.mpr (hback hsame), rfl⟩⟩
  cases readBounds_eq_some_iff.mp hread with
  | exact hcount =>
      obtain ⟨used, hused, hback⟩ := Local.of_skip (readCount_local f) f hcount
      refine ⟨used ++ ['\x7d'], by simp [hused], fun hsame => .exact ?_⟩
      rw [List.append_assoc]
      exact hback (hsame.next '\x7d')
  | atLeast next hcount hnext =>
      obtain ⟨used, hused, hback⟩ := Local.of_skip (readCount_local f) f hcount
      obtain ⟨skipped, hskipped, hskip⟩ := Flags.exists_skipped_cons hnext
      refine ⟨used ++ ',' :: (skipped ++ ['\x7d']), by simp [hused, hskipped],
        fun {rest'} hsame => .atLeast (skipped ++ '\x7d' :: rest') ?_ (hskip hsame)⟩
      have hahead := ((hsame.next '\x7d').append skipped).next ','
      rw [← hskipped] at hahead
      simpa using hback hahead
  | between next hcount hnext h' hle =>
      obtain ⟨used, hused, hback⟩ := Local.of_skip (readCount_local f) f hcount
      obtain ⟨skipped, hskipped, hskip⟩ := f.exists_skipped next
      obtain ⟨used', hused', hback'⟩ := readCount_local f h'
      rw [hused'] at hskipped hskip hnext
      refine ⟨used ++ ',' :: (skipped ++ (used' ++ ['\x7d'])), by simp [hused, hskipped],
        fun {rest'} hsame => ?_⟩
      have hahead := (hsame.next '\x7d').append used'
      refine .between (skipped ++ (used' ++ '\x7d' :: rest')) ?_ ?_ ?_ hle
      · have hbehind := (hahead.append skipped).next ','
        rw [← hskipped] at hbehind
        simpa using hback hbehind
      · rw [hskip hahead]
        exact mt (hahead.head?_iff (by decide)).mp hnext
      · rw [hskip hahead]
        exact hback' (hsame.next '\x7d')

/-! ## Repetitions -/

/-- The characters a repetition begins with. -/
def repetitionMarks : List Char :=
  ['*', '+', '?', '\x7b']

theorem readRepetition?_eq_none {c : Char} (hc : c ∉ repetitionMarks) (rest : List Char) :
    readRepetition? f (c :: rest) = none := by
  unfold readRepetition?
  split <;> simp_all [repetitionMarks]

theorem not_mem_of_readRepetition? {c : Char} {rest : List Char}
    (h : readRepetition? f (c :: rest) = none) : c ∉ repetitionMarks := by
  simp only [repetitionMarks, List.mem_cons, List.not_mem_nil, or_false, not_or]
  refine ⟨?_, ?_, ?_, ?_⟩ <;> rintro rfl <;> cases h

/-- The sign of a repetition is read in front of all that is the same ahead. -/
theorem readRepetition?_local {c : Char} {cs rest : List Char} {n : Nat} {m : Option Nat}
    (h : readRepetition? f (c :: cs) = some (some (n, m, rest))) :
    c ∈ repetitionMarks ∧ ∃ used, cs = used ++ rest ∧ ∀ {rest' : List Char}, SameAhead rest rest' →
      readRepetition? f (c :: (used ++ rest')) = some (some (n, m, rest')) := by
  have hc : c ∈ repetitionMarks := by
    by_contra hc
    rw [readRepetition?_eq_none hc] at h
    cases h
  refine ⟨hc, ?_⟩
  simp only [repetitionMarks, List.mem_cons, List.not_mem_nil, or_false] at hc
  rcases hc with rfl | rfl | rfl | rfl
  · cases h
    exact ⟨[], rfl, fun _ => rfl⟩
  · cases h
    exact ⟨[], rfl, fun _ => rfl⟩
  · cases h
    exact ⟨[], rfl, fun _ => rfl⟩
  · obtain ⟨⟨n, m, next⟩, hbounds, h⟩ := Option.map_eq_some_iff.mp (Option.some.inj h)
    cases h
    obtain ⟨used, hused, hback⟩ := readBounds_local f (Option.map_eq_some_iff.mpr ⟨_, hbounds, rfl⟩)
    obtain ⟨skipped, hskipped, hskip⟩ := f.exists_skipped next
    refine ⟨used ++ skipped, by rw [List.append_assoc, ← hskipped, hused], fun {rest'} hsame => ?_⟩
    have hahead := hsame.of_append hskipped
    obtain ⟨⟨n', m', next'⟩, hagain, heq⟩ := Option.map_eq_some_iff.mp (hback hahead)
    simp only [Prod.mk.injEq] at heq
    obtain ⟨⟨rfl, rfl⟩, rfl⟩ := heq
    rw [List.append_assoc]
    show some ((readBounds f (used ++ (skipped ++ rest'))).map _) = _
    rw [hagain]
    show some (some (_, _, f.skip _)) = _
    rw [hskip hsame]

theorem readRepetition?_le {cs rest : List Char} {n : Nat} {m : Option Nat}
    (h : readRepetition? f cs = some (some (n, m, rest))) : ∀ k ∈ m, n ≤ k := by
  unfold readRepetition? at h
  split at h
  · cases h
    exact nofun
  · cases h
    exact nofun
  · cases h
    rintro _ ⟨⟩
    exact Nat.zero_le _
  · obtain ⟨⟨n, m, next⟩, hbounds, h⟩ := Option.map_eq_some_iff.mp (Option.some.inj h)
    cases h
    exact (readBounds_eq_some_iff.mp hbounds).le
  · cases h

/-- Where a brace holds bounds, it holds no name. -/
theorem noLookName_of_readRepetition? {cs rest : List Char} {n : Nat} {m : Option Nat}
    (h : readRepetition? f cs = some (some (n, m, rest))) : NoLookName f cs := by
  rintro name rfl
  obtain ⟨⟨n, m, next⟩, hbounds, -⟩ := Option.map_eq_some_iff.mp (Option.some.inj h)
  obtain ⟨⟨n, behind⟩, hcount, -⟩ := Option.bind_eq_some_iff.mp hbounds
  obtain ⟨c, r, hskip, hc⟩ := head_of_readCount hcount
  exact ⟨c, r, hskip, not_isLookChar hc⟩

/-- A part that is repeated, with a mark behind the repetition or without. -/
def Part.again (f : Flags) (p : Part) (n : Nat) (m : Option Nat) (marked : Bool) : Part :=
  { pattern := repeated p.pattern n m (marked == f.reluctant), depth := p.depth + 1,
    repeatable := true }

theorem repeated?_of_no_mark {last : Part} (h : last.repeatable = true) {n : Nat} {m : Option Nat}
    {cs : List Char} (hcs : cs.head? ≠ some '?') :
    last.repeated? f n m cs = some (last.again f n m false, cs) := by
  cases cs with
  | nil => simp [Part.repeated?, h, Part.again]
  | cons c cs =>
      have hc : c ≠ '?' := by simpa using hcs
      simp [Part.repeated?, h, Part.again, hc]

theorem repeated?_eq_some {last part : Part} {n : Nat} {m : Option Nat} {cs rest : List Char}
    (h : last.repeated? f n m cs = some (part, rest)) : last.repeatable = true ∧
      (part = last.again f n m true ∧ cs = '?' :: rest ∨
        part = last.again f n m false ∧ cs = rest ∧ rest.head? ≠ some '?') := by
  cases hlast : last.repeatable with
  | false =>
      simp [Part.repeated?, hlast] at h
  | true =>
      refine ⟨rfl, ?_⟩
      by_cases hcs : cs.head? = some '?'
      · obtain ⟨r, rfl⟩ := List.head?_eq_some_iff.mp hcs
        simp only [Part.repeated?, hlast] at h
        cases h
        exact .inl ⟨rfl, rfl⟩
      · rw [repeated?_of_no_mark hlast hcs] at h
        cases h
        exact .inr ⟨rfl, rfl, hcs⟩

theorem repeated?_local (last : Part) (n : Nat) (m : Option Nat) :
    Local (last.repeated? f n m) := by
  intro cs part rest h
  obtain ⟨hlast, ⟨rfl, rfl⟩ | ⟨rfl, rfl, hhead⟩⟩ := repeated?_eq_some h
  · refine ⟨['?'], rfl, fun _ => ?_⟩
    simp [Part.repeated?, hlast, Part.again]
  · refine ⟨[], rfl, fun hsame => repeated?_of_no_mark hlast ?_⟩
    exact mt (hsame.head?_iff (by decide)).mp hhead

/-! ## What opens a group -/

theorem readGroupName_append {names : List (List Char)} {c : Char} {more : List Char}
    (hname : ∀ b ∈ c :: more, b ≠ '>') (rest : List Char) :
    readGroupName names (c :: more ++ '>' :: rest) =
      if isNameChar true c && more.all (isNameChar false) && !names.contains (c :: more) then
        some (c :: more, rest) else none := by
  have htake : (c :: more ++ '>' :: rest).takeWhile (fun c => c != '>') = c :: more := by
    rw [List.takeWhile_append_of_pos (by simpa using hname)]
    simp
  unfold readGroupName
  dsimp only
  rw [htake, List.drop_left]
  rfl

theorem readGroupName_local {names : List (List Char)} {cs name rest : List Char}
    (h : readGroupName names cs = some (name, rest)) :
    ∃ c used, cs = c :: (used ++ rest) ∧
      ∀ rest', readGroupName names (c :: (used ++ rest')) = some (name, rest') := by
  have hsplit := List.prefix_iff_eq_append.mp (@List.takeWhile_prefix _ cs fun c => c != '>')
  have hname : ∀ b ∈ cs.takeWhile fun c => c != '>', b ≠ '>' := by
    intro b hb
    simpa using List.mem_takeWhile_imp hb
  have hread := h
  unfold readGroupName at h
  dsimp only at h
  split at h
  · rename_i c more next htake hdrop
    rw [hdrop, htake] at hsplit
    rw [htake] at hname
    rw [← hsplit, readGroupName_append hname] at hread
    split_ifs at hread with hgood
    cases hread
    refine ⟨c, more ++ ['>'], by simp [← hsplit], fun rest' => ?_⟩
    have hagain := @readGroupName_append names c more hname rest'
    rw [if_pos hgood] at hagain
    simpa using hagain
  · cases h

/-- Flags end with a character that stays in front of what is left. -/
theorem Flags.exists_read {g new : Flags} {seen seen' cs rest : List Char} {minus : Bool}
    (h : g.read seen minus cs = some (new, seen', rest)) :
    ∃ used c r, rest = c :: r ∧ (c = ':' ∨ c = ')') ∧ cs = used ++ c :: r ∧
      ∀ r', g.read seen minus (used ++ c :: r') = some (new, seen', c :: r') := by
  fun_induction Flags.read g seen minus cs with
  | case1 => cases h
  | case2 => cases h
  | case3 g seen minus c cs hend hseen =>
      cases h
      exact ⟨[], c, cs, rfl, hend, rfl, fun r' => by simp [Flags.read, hend, hseen]⟩
  | case4 => cases h
  | case5 g seen minus cs hminus hend ih =>
      obtain ⟨used, d, r, rfl, hd, rfl, hback⟩ := ih h
      refine ⟨'-' :: used, d, r, rfl, hd, rfl, fun r' => ?_⟩
      rw [List.cons_append, Flags.read, if_neg hend, if_pos rfl, if_neg hminus]
      exact hback r'
  | case6 => cases h
  | case7 g seen minus c cs hend hc hseen g' hset ih =>
      obtain ⟨used, d, r, rfl, hd, rfl, hback⟩ := ih h
      refine ⟨c :: used, d, r, rfl, hd, rfl, fun r' => ?_⟩
      rw [List.cons_append, Flags.read, if_neg hend, if_neg hc, if_neg hseen, hset]
      exact hback r'
  | case8 => cases h

/-- The characters behind the question mark that do not begin flags. -/
theorem Flags.read_eq_none {c : Char} (hc : c ∈ ['=', '!', '<', 'P']) (g : Flags)
    (cs : List Char) : g.read [] false (c :: cs) = none := by
  simp only [List.mem_cons, List.not_mem_nil, or_false] at hc
  rcases hc with rfl | rfl | rfl | rfl <;> rfl

/-- What opens a group, in one of its four forms; blanks in front of it are skipped. -/
inductive OpeningRead (f : Flags) (names : List (List Char)) :
    List Char → Opening → List Char → Prop where
  | plain {cs : List Char} (h : cs.head? ≠ some '?') : OpeningRead f names cs (.remembered none) cs
  | named {mark cs name rest : List Char}
      (hmark : mark = ['?', '<'] ∧ cs.head? ≠ some '=' ∧ cs.head? ≠ some '!' ∨
        mark = ['?', 'P', '<'])
      (h : readGroupName names cs = some (name, rest)) :
      OpeningRead f names (mark ++ cs) (.remembered (some name)) rest
  | unnamed {cs seen rest : List Char} {new : Flags}
      (h : f.read [] false cs = some (new, seen, ':' :: rest)) :
      OpeningRead f names ('?' :: cs) (.unnamed new) rest
  | flags {cs seen rest : List Char} {new : Flags}
      (h : f.read [] false cs = some (new, seen, ')' :: rest)) (hseen : seen ≠ []) :
      OpeningRead f names ('?' :: cs) (.flags new) rest

theorem readOpening_of_flags {names : List (List Char)} {cs ds : List Char}
    (hskip : f.skip cs = '?' :: ds) (hds : ∀ c ∈ ds.head?, c ∉ ['=', '!', '<', 'P']) :
    readOpening f names cs = match f.read [] false ds with
      | some (new, _, ':' :: rest) => some (.unnamed new, rest)
      | some (new, seen, ')' :: rest) => if seen.isEmpty then none else some (.flags new, rest)
      | _ => none := by
  unfold readOpening
  rw [hskip]
  cases ds with
  | nil => rfl
  | cons d ds =>
      have hd := hds d rfl
      simp only [List.mem_cons, List.not_mem_nil, or_false, not_or] at hd
      split <;> rename_i heq
      · cases heq
        exact absurd rfl hd.1
      · cases heq
        exact absurd rfl hd.2.1
      · cases heq
        exact absurd rfl hd.2.2.1
      · cases heq
        exact absurd rfl hd.2.2.1
      · cases heq
        exact absurd rfl hd.2.2.2
      · cases heq
        exact absurd rfl hd.2.2.1
      · cases heq
        rfl
      · exact absurd rfl (heq _)

/-- Each way to read what opens a group is one of these. -/
theorem OpeningRead.of_readOpening {names : List (List Char)} {cs rest : List Char} {o : Opening}
    (h : readOpening f names cs = some (o, rest)) : OpeningRead f names (f.skip cs) o rest := by
  unfold readOpening at h
  split at h
  · cases h
  · cases h
  · cases h
  · cases h
  · rename_i next hskip
    rw [hskip]
    obtain ⟨⟨name, behind⟩, hname, h⟩ := Option.map_eq_some_iff.mp h
    cases h
    exact .named (.inr rfl) hname
  · rename_i next hequal hbang hskip
    rw [hskip]
    obtain ⟨⟨name, behind⟩, hname, h⟩ := Option.map_eq_some_iff.mp h
    cases h
    refine .named (.inl ⟨rfl, fun hhead => ?_, fun hhead => ?_⟩) hname
    · obtain ⟨r, hr⟩ := List.head?_eq_some_iff.mp hhead
      exact hequal r hr
    · obtain ⟨r, hr⟩ := List.head?_eq_some_iff.mp hhead
      exact hbang r hr
  · rename_i next _ _ _ _ _ _ hskip
    rw [hskip]
    split at h
    · rename_i hflags
      cases h
      exact .unnamed hflags
    · rename_i seen _ hflags
      split at h
      · cases h
      · rename_i hseen
        cases h
        exact .flags hflags (by simpa using hseen)
    · cases h
  · rename_i hplain
    cases h
    refine .plain fun hhead => ?_
    obtain ⟨r, hr⟩ := List.head?_eq_some_iff.mp hhead
    exact hplain r hr

/-- In each of these ways what opens a group is read. -/
theorem OpeningRead.readOpening_eq {names : List (List Char)} {cs rest : List Char} {o : Opening}
    (h : OpeningRead f names (f.skip cs) o rest) : readOpening f names cs = some (o, rest) := by
  generalize hskip : f.skip cs = ds at h
  have hflags : ∀ {new seen rest ds}, f.read [] false ds = some (new, seen, rest) →
      ∀ c ∈ ds.head?, c ∉ ['=', '!', '<', 'P'] := by
    intro new seen rest ds hread c hhead hc
    obtain ⟨r, rfl⟩ := List.head?_eq_some_iff.mp hhead
    rw [Flags.read_eq_none hc] at hread
    cases hread
  cases h with
  | plain hplain =>
      unfold readOpening
      rw [hskip]
      split
      all_goals first | rfl | exact absurd rfl hplain
  | named hmark hname =>
      obtain ⟨c, used, rfl, -⟩ := readGroupName_local hname
      rcases hmark with ⟨rfl, hequal, hbang⟩ | rfl
      · unfold readOpening
        rw [hskip]
        simp only [List.head?_cons, ne_eq, Option.some.injEq] at hequal hbang
        simp [hequal, hbang, hname]
      · unfold readOpening
        rw [hskip]
        simp [hname]
  | unnamed hread =>
      rw [readOpening_of_flags hskip (hflags hread), hread]
      rfl
  | flags hread hseen =>
      rw [readOpening_of_flags hskip (hflags hread), hread]
      simp [hseen]

theorem readOpening_eq_some_iff {names : List (List Char)} {cs rest : List Char} {o : Opening} :
    readOpening f names cs = some (o, rest) ↔ OpeningRead f names (f.skip cs) o rest :=
  ⟨.of_readOpening, OpeningRead.readOpening_eq⟩

/-- What opens a group is read in front of all that is the same ahead. -/
theorem readOpening_local (f : Flags) (names : List (List Char)) : Local (readOpening f names) := by
  intro cs o rest h
  obtain ⟨skipped, hcs, hskip⟩ := f.exists_skipped cs
  suffices hlocal : ∃ used, f.skip cs = used ++ rest ∧ ∀ {rest' : List Char}, SameAhead rest rest' →
      OpeningRead f names (used ++ rest') o rest' by
    obtain ⟨used, hused, hback⟩ := hlocal
    rw [hused] at hcs hskip
    refine ⟨skipped ++ used, by rw [List.append_assoc, hcs], fun {rest'} hsame => ?_⟩
    rw [List.append_assoc, readOpening_eq_some_iff, hskip (hsame.append used)]
    exact hback hsame
  generalize hds : f.skip cs = ds
  cases hds ▸ readOpening_eq_some_iff.mp h with
  | plain hplain =>
      exact ⟨[], rfl, fun hsame => .plain (mt (hsame.head?_iff (by decide)).mp hplain)⟩
  | named hmark hname =>
      rename_i mark _ _
      obtain ⟨c, used, rfl, hback⟩ := readGroupName_local hname
      refine ⟨mark ++ c :: used, by simp, fun {rest'} _ => ?_⟩
      rw [List.append_assoc]
      exact .named hmark (hback rest')
  | unnamed hread =>
      obtain ⟨used, c, r, hc, -, rfl, hback⟩ := Flags.exists_read hread
      cases hc
      refine ⟨'?' :: (used ++ [':']), by simp, fun {rest'} _ => ?_⟩
      rw [List.cons_append, List.append_assoc]
      exact .unnamed (hback rest')
  | flags hread hseen =>
      obtain ⟨used, c, r, hc, -, rfl, hback⟩ := Flags.exists_read hread
      cases hc
      refine ⟨'?' :: (used ++ [')']), by simp, fun {rest'} _ => ?_⟩
      rw [List.cons_append, List.append_assoc]
      exact .flags (hback rest') hseen

/-! ## Single characters and assertions -/

/-- The pattern of what stands behind a backslash. -/
def Escaped.pattern (f : Flags) : Escaped → Pattern
  | .char n => f.char n
  | .chars s => ofChars s
  | .look l => .look l

theorem readPrimitive_escape (cs : List Char) : readPrimitive f ('\\' :: cs) =
    (readEscape f cs).map fun x => (x.1.pattern f, x.2) := by
  show (readEscape f cs).bind _ = _
  cases readEscape f cs with
  | none => rfl
  | some found =>
      obtain ⟨e, rest⟩ := found
      cases e <;> rfl

theorem readPrimitive_single {c : Char} (hc : c ≠ '\\') (cs : List Char) :
    readPrimitive f (c :: cs) = (readPrimitive f [c]).map fun x => (x.1, cs) := by
  by_cases hdot : c = '.'
  · subst hdot
    show f.dot.map _ = (f.dot.map _).map _
    rw [Option.map_map]
    rfl
  · unfold readPrimitive
    split <;> simp_all

theorem readPrimitive_local {cs rest : List Char} {p : Pattern}
    (h : readPrimitive f cs = some (p, rest)) :
    ∃ c used, cs = c :: (used ++ rest) ∧ ∀ {rest' : List Char}, SameAhead rest rest' →
      NoLookName f rest' → readPrimitive f (c :: (used ++ rest')) = some (p, rest') := by
  cases cs with
  | nil => cases h
  | cons c cs =>
      by_cases hc : c = '\\'
      · subst hc
        rw [readPrimitive_escape] at h
        obtain ⟨⟨e, _⟩, he, h⟩ := Option.map_eq_some_iff.mp h
        cases h
        obtain ⟨used, rfl, hback⟩ := readEscape_local he
        refine ⟨'\\', used, rfl, fun hsame hno => ?_⟩
        rw [readPrimitive_escape, hback hsame fun _ _ => hno]
        rfl
      · rw [readPrimitive_single hc] at h
        obtain ⟨⟨p, _⟩, hp, h⟩ := Option.map_eq_some_iff.mp h
        cases h
        refine ⟨c, [], rfl, fun _ _ => ?_⟩
        rw [List.nil_append, readPrimitive_single hc, hp]
        rfl

theorem bounded_of_readPrimitive {cs rest : List Char} {p : Pattern}
    (h : readPrimitive f cs = some (p, rest)) : p.Bounded := by
  cases cs with
  | nil => cases h
  | cons c cs =>
      by_cases hc : c = '\\'
      · subst hc
        rw [readPrimitive_escape] at h
        obtain ⟨⟨e, _⟩, -, h⟩ := Option.map_eq_some_iff.mp h
        cases h
        cases e with
        | char | chars => exact bounded_ofChars _
        | look => trivial
      · unfold readPrimitive at h
        split at h
        · obtain ⟨q, hdot, h⟩ := Option.map_eq_some_iff.mp h
          cases h
          unfold Flags.dot at hdot
          split_ifs at hdot <;> cases hdot <;> exact bounded_ofChars _
        · cases h
          trivial
        · cases h
          trivial
        · rename_i heq
          cases heq
          exact absurd rfl hc
        · cases h
          exact bounded_ofChars _
        · cases h

end Pattern
end ProvisionWatch

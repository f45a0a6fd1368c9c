import Mathlib.Data.List.TakeWhile
import ProvisionWatch.Pattern.Escape

/-!
# How far a reader sees

What is read of a pattern must not depend on what stands behind the group it is
in.  Two texts are the same ahead if they are equal up to some closing
parenthesis; the second may also end there.  A reader is local if it reads the
same from all texts that are the same ahead of what it leaves.

A reader that leaves nothing is local for want of a closing parenthesis: only
blanks and comments are ever read to the end of the text.

Main results:

- Theorem `SameAhead.head?_iff`: both texts show the same next character, unless
  it is a closing parenthesis.
- Theorem `Flags.exists_skipped`: what is skipped is skipped again.
- Theorem `readEscape_local`: so is reading what stands behind a backslash, up to
  the one place where it looks for the name of an assertion.
-/

namespace ProvisionWatch
namespace Pattern

/-! ## Texts that are the same ahead -/

/-- Two texts are equal up to a closing parenthesis, where the second may end. -/
inductive SameAhead : List Char → List Char → Prop where
  | close (rest rest' : List Char) : SameAhead (')' :: rest) (')' :: rest')
  | stop (rest : List Char) : SameAhead (')' :: rest) []
  | next (c : Char) {rest rest' : List Char} (h : SameAhead rest rest') :
      SameAhead (c :: rest) (c :: rest')

namespace SameAhead

variable {rest rest' : List Char}

theorem append (used : List Char) (h : SameAhead rest rest') :
    SameAhead (used ++ rest) (used ++ rest') := by
  induction used with
  | nil => exact h
  | cons c used ih => exact .next c ih

/-- What stands in front of texts that are the same ahead is the same as well. -/
theorem of_append {cs used : List Char} (h : SameAhead rest rest') (hcs : cs = used ++ rest) :
    SameAhead cs (used ++ rest') := by
  rw [hcs]
  exact h.append used

theorem ne_nil (h : SameAhead rest rest') : rest ≠ [] := by
  cases h <;> simp

theorem of_cons {c : Char} (hc : c ≠ ')') (h : SameAhead (c :: rest) rest') :
    ∃ r, rest' = c :: r ∧ SameAhead rest r := by
  cases h with
  | close => exact absurd rfl hc
  | stop => exact absurd rfl hc
  | next _ h => exact ⟨_, rfl, h⟩

theorem of_cons_right {c : Char} (hc : c ≠ ')') (h : SameAhead rest (c :: rest')) :
    ∃ r, rest = c :: r ∧ SameAhead r rest' := by
  cases h with
  | close => exact absurd rfl hc
  | next _ h => exact ⟨_, rfl, h⟩

/-- The second text ends, or it shows the same next character. -/
theorem nil_or_cons {c : Char} (h : SameAhead (c :: rest) rest') :
    rest' = [] ∨ ∃ r, rest' = c :: r := by
  cases h with
  | close => exact .inr ⟨_, rfl⟩
  | stop => exact .inl rfl
  | next => exact .inr ⟨_, rfl⟩

theorem eq_paren_of_nil {c : Char} (h : SameAhead (c :: rest) []) : c = ')' := by
  cases h
  rfl

/-- Both show the same next character, unless it is a closing parenthesis. -/
theorem head?_iff {c : Char} (hc : c ≠ ')') (h : SameAhead rest rest') :
    rest'.head? = some c ↔ rest.head? = some c := by
  cases h with
  | close => simp
  | stop => simpa using hc.symm
  | next => simp

end SameAhead

/-- A reader that reads the same from all texts that are the same ahead of what it leaves. -/
def Local (read : List Char → Option (α × List Char)) : Prop :=
  ∀ {cs : List Char} {a : α} {rest : List Char}, read cs = some (a, rest) →
    ∃ used, cs = used ++ rest ∧
      ∀ {rest' : List Char}, SameAhead rest rest' → read (used ++ rest') = some (a, rest')

/-! ## Blanks and comments -/

theorem skipSpaced_of_comment {fuel : Nat} {cs line : List Char}
    (h : cs.dropWhile Text.isBlank = '#' :: line) :
    skipSpaced (fuel + 1) cs = skipSpaced fuel (line.dropWhile fun c => c != '\n') := by
  rw [skipSpaced.eq_def, h]
  rfl

theorem skipSpaced_of_no_comment {fuel : Nat} {cs : List Char}
    (h : ∀ line, cs.dropWhile Text.isBlank ≠ '#' :: line) :
    skipSpaced fuel cs = cs.dropWhile Text.isBlank := by
  unfold skipSpaced
  split
  · rfl
  · rename_i line hline
    exact absurd hline (h line)
  · rfl

/-- What is dropped in front of a character stands in front of nothing, and of all that begins with
that character. -/
theorem dropWhile_eq_cons {test : Char → Bool} {cs rest : List Char} {c : Char}
    (h : cs.dropWhile test = c :: rest) :
    test c = false ∧ ∃ used, cs = used ++ c :: rest ∧ ∀ {rest' : List Char},
      (rest' = [] ∨ ∃ r, rest' = c :: r) → (used ++ rest').dropWhile test = rest' := by
  have hc : test c = false := by
    simpa [h] using List.head?_dropWhile_not test cs
  refine ⟨hc, cs.takeWhile test, ?_, ?_⟩
  · rw [← h, List.takeWhile_append_dropWhile]
  · intro rest' hrest
    rw [List.dropWhile_append_of_pos fun b hb => List.mem_takeWhile_imp hb]
    rcases hrest with rfl | ⟨r, rfl⟩
    · rfl
    · simp [hc]

/-- Skipping stops at what is neither a blank nor a comment, or at the end. -/
theorem skipSpaced_cons {fuel : Nat} {cs rest : List Char} {c : Char} (hfuel : cs.length ≤ fuel)
    (h : skipSpaced fuel cs = c :: rest) :
    Text.isBlank c = false ∧ c ≠ '#' ∧ ∃ used, cs = used ++ c :: rest ∧
      ∀ {rest' : List Char} {fuel' : Nat}, (rest' = [] ∨ ∃ r, rest' = c :: r) →
        (used ++ rest').length ≤ fuel' → skipSpaced fuel' (used ++ rest') = rest' := by
  induction fuel generalizing cs with
  | zero =>
      rw [List.length_eq_zero_iff.mp (Nat.le_zero.mp hfuel)] at h
      cases h
  | succ fuel ih =>
      by_cases hcomment : ∃ line, cs.dropWhile Text.isBlank = '#' :: line
      · obtain ⟨line, hline⟩ := hcomment
        rw [skipSpaced_of_comment hline] at h
        obtain ⟨-, blanks, rfl, hblanks⟩ := dropWhile_eq_cons hline
        obtain ⟨d, next, hnext⟩ : ∃ d next, (line.dropWhile fun c => c != '\n') = d :: next := by
          cases hd : line.dropWhile fun c => c != '\n' with
          | nil =>
              rw [hd] at h
              cases fuel <;> cases h
          | cons d next => exact ⟨d, next, rfl⟩
        obtain ⟨hd, inside, rfl, hinside⟩ := dropWhile_eq_cons hnext
        rw [hnext] at h
        obtain ⟨hblank, hhash, used, hused, hback⟩ := ih (by simp at hfuel ⊢; omega) h
        refine ⟨hblank, hhash, blanks ++ '#' :: (inside ++ used), by simp [hused], ?_⟩
        intro rest' fuel' hrest hlength
        -- the comment ends with its line, so what ends it is among what is skipped behind it
        have hstart : used ++ rest' = [] ∨ ∃ r, used ++ rest' = d :: r := by
          cases used with
          | nil =>
              cases hused
              exact hrest
          | cons b used =>
              cases hused
              exact .inr ⟨_, rfl⟩
        obtain ⟨fuel', rfl⟩ : ∃ n, fuel' = n + 1 := ⟨fuel' - 1, by simp at hlength; omega⟩
        have hcomment := @hblanks ('#' :: (inside ++ (used ++ rest'))) (.inr ⟨_, rfl⟩)
        have htext : blanks ++ '#' :: (inside ++ used) ++ rest' =
            blanks ++ '#' :: (inside ++ (used ++ rest')) := by simp
        rw [htext, skipSpaced_of_comment hcomment, hinside hstart]
        exact hback hrest (by simp at hlength ⊢; omega)
      · have hno : ∀ line, cs.dropWhile Text.isBlank ≠ '#' :: line :=
          fun line hline => hcomment ⟨line, hline⟩
        rw [skipSpaced_of_no_comment hno] at h
        obtain ⟨hblank, blanks, rfl, hblanks⟩ := dropWhile_eq_cons h
        have hhash : c ≠ '#' := by
          rintro rfl
          exact hno _ h
        refine ⟨hblank, hhash, blanks, rfl, ?_⟩
        intro rest' fuel' hrest _
        rw [skipSpaced_of_no_comment, hblanks hrest]
        intro line hline
        rw [hblanks hrest] at hline
        rcases hrest with rfl | ⟨r, rfl⟩
        · cases hline
        · cases hline
          exact hhash rfl

namespace Flags

variable {f : Flags}

/-- What is skipped is skipped in front of all that is the same ahead. -/
theorem exists_skipped (f : Flags) (cs : List Char) :
    ∃ used, cs = used ++ f.skip cs ∧ ∀ {rest' : List Char}, SameAhead (f.skip cs) rest' →
      f.skip (used ++ rest') = rest' := by
  by_cases hspaced : f.spaced = true
  · cases hskip : f.skip cs with
    | nil => exact ⟨cs, by simp, fun h => absurd rfl h.ne_nil⟩
    | cons c rest =>
        simp only [skip, hspaced, if_true] at hskip ⊢
        obtain ⟨-, -, used, hused, hback⟩ := skipSpaced_cons (Nat.le_refl _) hskip
        exact ⟨used, hused, fun h => hback h.nil_or_cons (Nat.le_refl _)⟩
  · have hskip (cs : List Char) : f.skip cs = cs := skip_of_not_spaced f cs (by simpa using hspaced)
    exact ⟨[], by simp [hskip], fun _ => by simp [hskip]⟩

/-- What is skipped in front of a character is skipped again. -/
theorem exists_skipped_cons {cs rest : List Char} {c : Char} (h : f.skip cs = c :: rest) :
    ∃ skipped, cs = skipped ++ c :: rest ∧
      ∀ {rest' : List Char}, SameAhead rest rest' →
        f.skip (skipped ++ c :: rest') = c :: rest' := by
  obtain ⟨skipped, hcs, hskip⟩ := f.exists_skipped cs
  rw [h] at hcs hskip
  exact ⟨skipped, hcs, fun hsame => hskip (hsame.next c)⟩

/-! ## What stands between braces, and characters of one kind -/

theorem readBraced_of_skip {fuel : Nat} {cs rest : List Char} {c : Char}
    (h : f.skip cs = c :: rest) :
    f.readBraced (fuel + 1) cs =
      if c = '\x7d' then some ([], rest)
      else (f.readBraced fuel rest).map fun (inside, rest) => (c :: inside, rest) := by
  rw [readBraced.eq_def, h]

theorem exists_braced {fuel : Nat} {cs inside rest : List Char}
    (h : f.readBraced fuel cs = some (inside, rest)) :
    ∃ used, cs = used ++ rest ∧ ∀ {rest' : List Char} {fuel' : Nat}, SameAhead rest rest' →
      (used ++ rest').length < fuel' →
        f.readBraced fuel' (used ++ rest') = some (inside, rest') := by
  induction fuel generalizing cs inside with
  | zero => cases h
  | succ fuel ih =>
      cases hnext : f.skip cs with
      | nil =>
          rw [readBraced.eq_def, hnext] at h
          cases h
      | cons c next =>
          obtain ⟨skipped, hcs, hskip⟩ := exists_skipped_cons hnext
          rw [readBraced_of_skip hnext] at h
          by_cases hc : c = '\x7d'
          · rw [if_pos hc] at h
            cases h
            refine ⟨skipped ++ [c], by simp [hcs], fun {rest' fuel'} hsame hlength => ?_⟩
            obtain ⟨fuel', rfl⟩ : ∃ n, fuel' = n + 1 := ⟨fuel' - 1, by omega⟩
            rw [List.append_assoc, List.singleton_append,
              readBraced_of_skip (hskip hsame), if_pos hc]
          · rw [if_neg hc] at h
            obtain ⟨⟨more, _⟩, hmore, h⟩ := Option.map_eq_some_iff.mp h
            cases h
            obtain ⟨used, rfl, hback⟩ := ih hmore
            refine ⟨skipped ++ c :: used, by simp [hcs], fun {rest' fuel'} hsame hlength => ?_⟩
            obtain ⟨fuel', rfl⟩ : ∃ n, fuel' = n + 1 := ⟨fuel' - 1, by omega⟩
            rw [List.append_assoc, List.cons_append,
              readBraced_of_skip (hskip (hsame.append used)), if_neg hc,
              hback hsame (by simp at hlength ⊢; omega)]
            rfl

theorem readBraced_local (f : Flags) : Local fun cs => f.readBraced (cs.length + 1) cs := by
  intro cs inside rest h
  obtain ⟨used, hcs, hback⟩ := exists_braced h
  exact ⟨used, hcs, fun hsame => hback hsame (Nat.lt_succ_self _)⟩

/-- Characters of one kind are read up to the first that is none. -/
theorem exists_readWhile {test : Char → Bool} {fuel : Nat} {cs : List Char}
    (hfuel : cs.length ≤ fuel) :
    ∃ used, cs = used ++ (f.readWhile test fuel cs).2 ∧
      ∀ {rest' : List Char} {fuel' : Nat}, SameAhead (f.readWhile test fuel cs).2 rest' →
        (used ++ rest').length ≤ fuel' →
          f.readWhile test fuel' (used ++ rest') = ((f.readWhile test fuel cs).1, rest') := by
  induction fuel generalizing cs with
  | zero =>
      rw [List.length_eq_zero_iff.mp (Nat.le_zero.mp hfuel)]
      exact ⟨[], rfl, fun h => absurd rfl h.ne_nil⟩
  | succ fuel ih =>
      cases cs with
      | nil => exact ⟨[], rfl, fun h => absurd rfl h.ne_nil⟩
      | cons c cs =>
          obtain ⟨skipped, hcs, hskip⟩ := exists_skipped f cs
          by_cases hc : test c = true
          · have hlength : (f.skip cs).length ≤ fuel := by
              have := congrArg List.length hcs
              simp at this hfuel
              omega
            obtain ⟨used, hused, hback⟩ := ih hlength
            simp only [readWhile, hc, if_true] at hback ⊢
            refine ⟨c :: (skipped ++ used), by simp [← hused, ← hcs],
              fun {rest' fuel'} hsame hlength => ?_⟩
            obtain ⟨fuel', rfl⟩ : ∃ n, fuel' = n + 1 := ⟨fuel' - 1, by simp at hlength; omega⟩
            have hrest : f.skip (skipped ++ (used ++ rest')) = used ++ rest' := by
              refine hskip ?_
              rw [hused]
              exact hsame.append used
            rw [List.cons_append, List.append_assoc, readWhile.eq_def]
            simp only [hc, if_true, hrest]
            rw [hback hsame (by simp at hlength ⊢; omega)]
          · simp only [readWhile, hc]
            refine ⟨[], rfl, fun {rest' fuel'} hsame _ => ?_⟩
            rcases hsame.nil_or_cons with rfl | ⟨r, rfl⟩
            · cases fuel' <;> rfl
            · cases fuel' with
              | zero => rfl
              | succ => simp [readWhile, hc]

end Flags

/-! ## Characters by their number -/

variable {f : Flags}

theorem readHexDigits_local (f : Flags) (value count : Nat) :
    Local (readHexDigits f value count) := by
  intro cs n rest h
  induction count generalizing value cs with
  | zero =>
      cases h
      exact ⟨[], rfl, fun _ => rfl⟩
  | succ count ih =>
      cases hnext : f.skip cs with
      | nil =>
          rw [readHexDigits, hnext] at h
          cases h
      | cons c next =>
          obtain ⟨skipped, hcs, hskip⟩ := Flags.exists_skipped_cons hnext
          rw [readHexDigits, hnext] at h
          obtain ⟨d, hd, h⟩ := Option.bind_eq_some_iff.mp h
          obtain ⟨used, rfl, hback⟩ := ih _ h
          refine ⟨skipped ++ c :: used, by simp [hcs], fun hsame => ?_⟩
          rw [List.append_assoc, List.cons_append, readHexDigits,
            hskip (hsame.append used)]
          exact Option.bind_eq_some_iff.mpr ⟨d, hd, hback hsame⟩

theorem readHexBraced_local (f : Flags) : Local (readHexBraced f) := by
  intro cs n rest h
  obtain ⟨⟨inside, next⟩, hread, h⟩ := Option.bind_eq_some_iff.mp h
  dsimp only at h
  split at h
  · cases h
  · rename_i hsome
    obtain ⟨digits, hdigits, h⟩ := Option.bind_eq_some_iff.mp h
    cases h
    obtain ⟨used, hcs, hback⟩ := f.readBraced_local hread
    refine ⟨used, hcs, fun hsame => Option.bind_eq_some_iff.mpr ⟨_, hback hsame, ?_⟩⟩
    exact (if_neg hsome).trans (Option.bind_eq_some_iff.mpr ⟨digits, hdigits, rfl⟩)

/-- The number of a character, in one of its two forms. -/
def readNumber (f : Flags) (count : Nat) (cs : List Char) : Option (Nat × List Char) :=
  if cs.head? = some '\x7b' then readHexBraced f cs.tail else readHexDigits f 0 count cs

theorem readNumber_local (f : Flags) (count : Nat) : Local (readNumber f count) := by
  intro cs n rest h
  unfold readNumber at h
  split at h
  · rename_i hbrace
    obtain ⟨next, rfl⟩ := List.head?_eq_some_iff.mp hbrace
    obtain ⟨used, hcs, hback⟩ := readHexBraced_local f h
    exact ⟨'\x7b' :: used, by simpa using hcs, fun hsame => hback hsame⟩
  · rename_i hbrace
    obtain ⟨used, rfl, hback⟩ := readHexDigits_local f 0 count h
    refine ⟨used, rfl, fun hsame => ?_⟩
    rw [readNumber, if_neg (mt ((hsame.append used).head?_iff (by decide)).mp hbrace)]
    exact hback hsame

theorem readHex_eq_some_iff {count : Nat} {cs rest : List Char} {e : Escaped} :
    readHex f count cs = some (e, rest) ↔ ∃ n, readNumber f count (f.skip cs) = some (n, rest) ∧
      n.isValidChar ∧ (f.unicode = false → (f.skip cs).head? ≠ some '\x7b' →
        count = 2 → n < 128) ∧ e = .char n := by
  have hread : readHex f count cs = (readNumber f count (f.skip cs)).bind fun x =>
      if !x.1.isValidChar then none
      else if !f.unicode && !((f.skip cs).head? == some '\x7b') && count = 2 && 128 ≤ x.1 then none
      else some (.char x.1, x.2) := by
    simp only [readHex, readNumber, beq_iff_eq]
    split <;> rfl
  rw [hread, Option.bind_eq_some_iff]
  constructor
  · rintro ⟨⟨n, next⟩, hn, h⟩
    dsimp only at h
    split at h
    · cases h
    · rename_i hvalid
      split at h
      · cases h
      · rename_i hbyte
        cases h
        rw [Bool.not_eq_true', decide_eq_false_iff_not, not_not] at hvalid
        refine ⟨n, hn, hvalid, fun hascii hbrace hcount => ?_, rfl⟩
        simpa [hascii, hbrace, hcount] using hbyte
  · rintro ⟨n, hn, hvalid, hbyte, rfl⟩
    refine ⟨(n, rest), hn, ?_⟩
    rw [if_neg (by rw [Bool.not_eq_true', decide_eq_false_iff_not, not_not]; exact hvalid), if_neg]
    simp only [Bool.and_eq_true, Bool.not_eq_true', decide_eq_true_eq, not_and, beq_eq_false_iff_ne]
    rintro ⟨⟨hascii, hbrace⟩, hcount⟩ hgreat
    exact absurd (hbyte hascii hbrace hcount) (Nat.not_lt.mpr hgreat)

theorem readHex_local (f : Flags) (count : Nat) : Local (readHex f count) := by
  intro cs e rest h
  obtain ⟨skipped, hcs, hskip⟩ := f.exists_skipped cs
  obtain ⟨n, hread, hvalid, hbyte, rfl⟩ := readHex_eq_some_iff.mp h
  obtain ⟨used, hused, hback⟩ := readNumber_local f count hread
  rw [hused] at hcs hskip hbyte
  refine ⟨skipped ++ used, by simp [hcs], fun hsame => readHex_eq_some_iff.mpr ⟨n, ?_⟩⟩
  have hahead := hsame.append used
  rw [List.append_assoc, hskip hahead]
  refine ⟨hback hsame, hvalid, fun hascii hbrace => hbyte hascii ?_, rfl⟩
  exact mt (hahead.head?_iff (by decide)).mpr hbrace

/-! ## Properties and assertions -/

/-- The name of a property, by one letter or between braces. -/
def readPropertyName (f : Flags) : List Char → Option (List Char × List Char)
  | '\x7b' :: rest => f.readBraced (rest.length + 1) rest
  | '\\' :: _ | [] => none
  | c :: rest => some ([c], rest)

theorem readPropertyName_of_letter {c : Char} (hbrace : c ≠ '\x7b') (hslash : c ≠ '\\')
    (rest : List Char) : readPropertyName f (c :: rest) = some ([c], rest) := by
  unfold readPropertyName
  split <;> simp_all

theorem readPropertyName_local (f : Flags) : Local (readPropertyName f) := by
  intro cs name rest h
  unfold readPropertyName at h
  split at h
  · obtain ⟨used, hcs, hback⟩ := f.readBraced_local h
    exact ⟨'\x7b' :: used, by simp [hcs], fun hsame => hback hsame⟩
  · cases h
  · cases h
  · rename_i c _ hbrace hslash
    cases h
    exact ⟨[c], rfl, fun _ => readPropertyName_of_letter hbrace hslash _⟩

theorem readProperty_eq (f : Flags) (negated : Bool) (cs : List Char) :
    readProperty f negated cs = (readPropertyName f (f.skip cs)).bind fun x =>
      (f.propertyClass negated x.1).bind fun s => some (.chars s, x.2) := by
  unfold readProperty
  generalize f.skip cs = ds
  split
  · rfl
  · rfl
  · rfl
  · rename_i hbrace hslash
    rw [readPropertyName_of_letter hbrace hslash]
    rfl

theorem readProperty_local (f : Flags) (negated : Bool) : Local (readProperty f negated) := by
  intro cs e rest h
  obtain ⟨skipped, hcs, hskip⟩ := f.exists_skipped cs
  rw [readProperty_eq] at h
  obtain ⟨⟨name, next⟩, hname, h⟩ := Option.bind_eq_some_iff.mp h
  obtain ⟨s, hs, h⟩ := Option.bind_eq_some_iff.mp h
  cases h
  obtain ⟨used, hused, hback⟩ := readPropertyName_local f hname
  rw [hused] at hcs hskip
  refine ⟨skipped ++ used, by simp [hcs], fun hsame => ?_⟩
  rw [readProperty_eq, List.append_assoc, hskip (hsame.append used), hback hsame]
  exact Option.bind_eq_some_iff.mpr ⟨_, rfl, Option.bind_eq_some_iff.mpr ⟨s, hs, rfl⟩⟩

/-- Whether a character can stand in the name of an assertion. -/
def isLookChar (c : Char) : Bool :=
  c.isAlpha || c == '-'

/-- The assertion with a name. -/
def lookNamed? (f : Flags) (name : List Char) : Option Look :=
  match String.ofList name with
  | "start" => some (.wordStart !f.unicode)
  | "end" => some (.wordEnd !f.unicode)
  | "start-half" => some (.wordStartHalf !f.unicode)
  | "end-half" => some (.wordEndHalf !f.unicode)
  | _ => none

/-- The assertion up to the closing brace. -/
def readLookName (f : Flags) (cs : List Char) : Option (Look × List Char) :=
  match (f.readWhile isLookChar cs.length cs).2 with
  | '\x7d' :: rest => (lookNamed? f (f.readWhile isLookChar cs.length cs).1).map fun l => (l, rest)
  | _ => none

theorem readWordLook_of_head {cs rest : List Char} {c : Char} (h : f.skip cs = c :: rest) :
    readWordLook f cs =
      if isLookChar c then (readLookName f (c :: rest)).map fun (l, rest) => (some l, rest)
      else some (none, c :: rest) := by
  have hread : readWordLook f cs =
      if !isLookChar c then some (none, c :: rest)
      else
        match (f.readWhile isLookChar (c :: rest).length (c :: rest)).2 with
        | '\x7d' :: rest' =>
            match String.ofList (f.readWhile isLookChar (c :: rest).length (c :: rest)).1 with
            | "start" => some (some (.wordStart !f.unicode), rest')
            | "end" => some (some (.wordEnd !f.unicode), rest')
            | "start-half" => some (some (.wordStartHalf !f.unicode), rest')
            | "end-half" => some (some (.wordEndHalf !f.unicode), rest')
            | _ => none
        | _ => none := by
    simp only [readWordLook, h]
    rfl
  rw [hread]
  by_cases hc : isLookChar c = true
  · simp only [hc, Bool.not_true, Bool.false_eq_true, if_false, if_true, readLookName]
    split
    · unfold lookNamed?
      split <;> rfl
    · rfl
  · simp [hc]

theorem readWordLook_of_nil {cs : List Char} (h : f.skip cs = []) : readWordLook f cs = none := by
  simp [readWordLook, h]

theorem readLookName_local (f : Flags) : Local (readLookName f) := by
  intro cs l rest h
  obtain ⟨used, hcs, hback⟩ := @Flags.exists_readWhile f isLookChar _ cs (Nat.le_refl _)
  unfold readLookName at h
  split at h
  · rename_i next hnext
    obtain ⟨l, hl, h⟩ := Option.map_eq_some_iff.mp h
    cases h
    rw [hnext] at hcs hback
    refine ⟨used ++ ['\x7d'], by simpa using hcs, fun {rest'} hsame => ?_⟩
    have hagain := hback (hsame.next '\x7d') (Nat.le_refl _)
    rw [List.append_assoc, List.singleton_append, readLookName, hagain]
    exact Option.map_eq_some_iff.mpr ⟨l, hl, rfl⟩
  · cases h

/-! ## What stands behind a backslash -/

/-- Most escapes are a single letter. -/
theorem readEscape_letter {c : Char} (hc : c ∉ ['x', 'u', 'U', 'p', 'P', 'b']) (rest : List Char) :
    readEscape f (c :: rest) = (readEscape f [c]).map fun x => (x.1, rest) := by
  simp only [List.mem_cons, List.not_mem_nil, or_false, not_or] at hc
  obtain ⟨hx, hu, hU, hp, hP, hb⟩ := hc
  unfold readEscape
  dsimp only
  split
  all_goals first | contradiction | rfl | skip
  split
  · rw [Option.map_map]
    rfl
  · split <;> rfl

/-- The name of an assertion is looked for behind a brace, and none stands there. -/
def NoLookName (f : Flags) (rest : List Char) : Prop :=
  ∀ name, rest = '\x7b' :: name → ∃ c r, f.skip name = c :: r ∧ isLookChar c = false

theorem readEscape_b_brace (name : List Char) :
    readEscape f ('b' :: '\x7b' :: name) =
      match readWordLook f name with
      | some (some l, rest) => some (.look l, rest)
      | some (none, _) => some (.look (.boundary !f.unicode), '\x7b' :: name)
      | none => none :=
  rfl

theorem readEscape_b_of_head {rest : List Char} (h : rest.head? ≠ some '\x7b') :
    readEscape f ('b' :: rest) = some (.look (.boundary !f.unicode), rest) := by
  cases rest with
  | nil => rfl
  | cons c rest =>
      have hc : c ≠ '\x7b' := by simpa using h
      simp [readEscape, hc]

theorem readEscape_boundary {rest : List Char} (h : NoLookName f rest) :
    readEscape f ('b' :: rest) = some (.look (.boundary !f.unicode), rest) := by
  by_cases hbrace : rest.head? = some '\x7b'
  · obtain ⟨name, rfl⟩ := List.head?_eq_some_iff.mp hbrace
    obtain ⟨c, r, hskip, hc⟩ := h name rfl
    simp [readEscape_b_brace, readWordLook_of_head hskip, hc]
  · exact readEscape_b_of_head hbrace

/-- Behind the letter for boundaries an assertion may be named. -/
theorem readEscape_b {rest next : List Char} {e : Escaped}
    (h : readEscape f ('b' :: rest) = some (e, next)) :
    (e = .look (.boundary !f.unicode) ∧ next = rest) ∨
      ∃ l name c r, e = .look l ∧ rest = '\x7b' :: name ∧ f.skip name = c :: r ∧
        isLookChar c = true ∧ readLookName f (c :: r) = some (l, next) := by
  by_cases hbrace : rest.head? = some '\x7b'
  · obtain ⟨name, rfl⟩ := List.head?_eq_some_iff.mp hbrace
    rw [readEscape_b_brace] at h
    cases hskip : f.skip name with
    | nil =>
        rw [readWordLook_of_nil hskip] at h
        cases h
    | cons c r =>
        rw [readWordLook_of_head hskip] at h
        by_cases hc : isLookChar c = true
        · rw [if_pos hc] at h
          cases hread : readLookName f (c :: r) with
          | none =>
              rw [hread] at h
              cases h
          | some found =>
              rw [hread] at h
              cases h
              exact .inr ⟨found.1, name, c, r, rfl, rfl, hskip, hc, hread⟩
        · rw [if_neg hc] at h
          cases h
          exact .inl ⟨rfl, rfl⟩
  · rw [readEscape_b_of_head hbrace] at h
    cases h
    exact .inl ⟨rfl, rfl⟩

/-- What stands behind a backslash is read in front of all that is the same ahead, as long as no
name of an assertion comes to stand behind a boundary. -/
theorem readEscape_local {cs rest : List Char} {e : Escaped}
    (h : readEscape f cs = some (e, rest)) :
    ∃ used, cs = used ++ rest ∧ ∀ {rest' : List Char}, SameAhead rest rest' →
      (∀ l, e = .look l → NoLookName f rest') → readEscape f (used ++ rest') = some (e, rest') := by
  cases cs with
  | nil => cases h
  | cons c cs =>
      by_cases hc : c ∈ ['x', 'u', 'U', 'p', 'P', 'b']
      · simp only [List.mem_cons, List.not_mem_nil, or_false] at hc
        -- those that read on
        have hread : ∀ {read : List Char → Option (Escaped × List Char)}, Local read →
            (∀ rest, readEscape f (c :: rest) = read rest) → ∃ used, c :: cs = used ++ rest ∧
              ∀ {rest' : List Char}, SameAhead rest rest' →
                (∀ l, e = .look l → NoLookName f rest') →
                  readEscape f (used ++ rest') = some (e, rest') := by
          intro read hlocal heq
          rw [heq] at h
          obtain ⟨used, rfl, hback⟩ := hlocal h
          refine ⟨c :: used, rfl, fun hsame _ => ?_⟩
          rw [List.cons_append, heq]
          exact hback hsame
        rcases hc with rfl | rfl | rfl | rfl | rfl | rfl
        · exact hread (readHex_local f 2) fun _ => rfl
        · exact hread (readHex_local f 4) fun _ => rfl
        · exact hread (readHex_local f 8) fun _ => rfl
        · exact hread (readProperty_local f false) fun _ => rfl
        · exact hread (readProperty_local f true) fun _ => rfl
        · rcases readEscape_b h with ⟨rfl, rfl⟩ | ⟨l, name, c, r, rfl, rfl, hskip, hc, hname⟩
          · exact ⟨['b'], rfl, fun _ hno => readEscape_boundary (hno _ rfl)⟩
          · obtain ⟨skipped, hcs, hback⟩ := f.exists_skipped name
            obtain ⟨used, hused, hname⟩ := readLookName_local f hname
            rw [hskip] at hcs hback
            refine ⟨'b' :: '\x7b' :: (skipped ++ used), by simp [hcs, hused],
              fun {rest'} hsame _ => ?_⟩
            have hahead := hsame.of_append hused
            have hparen : c ≠ ')' := by
              rintro rfl
              cases hc
            obtain ⟨r', hr', -⟩ := hahead.of_cons hparen
            have hnext : f.skip (skipped ++ used ++ rest') = c :: r' := by
              rw [List.append_assoc, hback hahead, hr']
            rw [List.cons_append, List.cons_append, readEscape_b_brace, readWordLook_of_head hnext,
              if_pos hc, ← hr', hname hsame]
            rfl
      · rw [readEscape_letter hc] at h
        obtain ⟨⟨e, next⟩, hletter, h⟩ := Option.map_eq_some_iff.mp h
        cases h
        refine ⟨[c], rfl, fun _ _ => ?_⟩
        rw [List.singleton_append, readEscape_letter hc, hletter]
        rfl

end Pattern
end ProvisionWatch

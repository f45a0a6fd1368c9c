import Mathlib.Tactic.SplitIfs
import ProvisionWatch.Json.Reader

/-!
# Readings of written text

A reading takes some text in front of what follows it and gives a value.  Such
readings compose: what one of them leaves is what the next one begins with.  In
this way strings and whole numbers are read as they are written, whatever
follows them.

Main results:

- Theorem `Reads.bind`: one reading after the other.
- Theorem `reads_string`: a string is read as it is quoted.
- Theorems `reads_number_ofNat` and `reads_number_negSucc`: whole numbers of 64
  bits are read as they are written.
-/

namespace ProvisionWatch
namespace Json

/-! ## Cursors -/

namespace Cursor

/-- A cursor knows how much is left. -/
def Sound (c : Cursor) : Prop :=
  c.left = c.rest.length

theorem sound_start (s : String) : (start s).Sound :=
  start_left s

theorem Sound.next {c : Cursor} (h : c.Sound) : c.next.Sound :=
  next_left c h

theorem rest_next {c : Cursor} {x : Char} {rest : List Char} (h : c.rest = x :: rest) :
    c.next.rest = rest := by
  rw [Cursor.next, h]

/-- Moving on by as many characters as a text has passes over it. -/
theorem rest_foldl_next {text after : List Char} {c : Cursor} (hc : c.Sound)
    (hrest : c.rest = text ++ after) :
    (text.foldl (fun c _ => c.next) c).Sound ∧
      (text.foldl (fun c _ => c.next) c).rest = after := by
  induction text generalizing c with
  | nil => exact ⟨hc, hrest⟩
  | cons x text ih => exact ih hc.next (rest_next hrest)

end Cursor

namespace Reading

variable {α β : Type} {r : Reading α} {text more after : List Char} {a : α} {b : β}

/-! ## Readings in order -/

/-- A reading takes a text in front of what follows it, and gives a value. -/
def Reads (r : Reading α) (text after : List Char) (a : α) : Prop :=
  ∀ c : Cursor, c.Sound → c.rest = text ++ after →
    ∃ c', r c = .ok a c' ∧ c'.Sound ∧ c'.rest = after

theorem Reads.pure (a : α) (after : List Char) : Reads (Pure.pure a) [] after a :=
  fun c hc hrest => ⟨c, rfl, hc, hrest⟩

/-- One reading after the other. -/
theorem Reads.bind {f : α → Reading β} (h : Reads r text (more ++ after) a)
    (hf : Reads (f a) more after b) : Reads (r >>= f) (text ++ more) after b := by
  intro c hc hrest
  obtain ⟨c₁, hr, hc₁, hrest₁⟩ := h c hc (by rw [hrest, List.append_assoc])
  obtain ⟨c₂, hfa, hc₂, hrest₂⟩ := hf c₁ hc₁ hrest₁
  refine ⟨c₂, ?_, hc₂, hrest₂⟩
  show EStateM.bind r f c = _
  rw [EStateM.bind, hr]
  exact hfa

/-- A reading that takes nothing, and then another one. -/
theorem Reads.first {f : α → Reading β} (h : Reads r [] (text ++ after) a)
    (hf : Reads (f a) text after b) : Reads (r >>= f) text after b :=
  h.bind hf

/-- A reading, and then one that takes nothing. -/
theorem Reads.last {f : α → Reading β} (h : Reads r text after a)
    (hf : Reads (f a) [] after b) : Reads (r >>= f) text after b := by
  rw [← List.append_nil text]
  exact h.bind hf

theorem Reads.map (f : α → β) (h : Reads r text after a) : Reads (f <$> r) text after (f a) := by
  intro c hc hrest
  obtain ⟨c', hr, hc', hrest'⟩ := h c hc hrest
  refine ⟨c', ?_, hc', hrest'⟩
  show EStateM.map f r c = _
  rw [EStateM.map, hr]

theorem reads_peek (after : List Char) : Reads peek [] after after.head? := by
  intro c hc hrest
  exact ⟨c, congrArg (fun rest => EStateM.Result.ok (List.head? rest) c) hrest, hc, hrest⟩

theorem reads_advance (x : Char) (after : List Char) : Reads advance [x] after () :=
  fun c hc hrest => ⟨c.next, rfl, hc.next, Cursor.rest_next hrest⟩

/-- A text is passed over character by character. -/
theorem reads_foldl_next (text after : List Char) :
    Reads (modify fun c => text.foldl (fun c _ => c.next) c) text after () := by
  intro c hc hrest
  obtain ⟨hsound, hleft⟩ := Cursor.rest_foldl_next hc hrest
  exact ⟨_, rfl, hsound, hleft⟩

/-- A reading may look at the cursor first. -/
theorem Reads.get {f : Cursor → Reading β}
    (h : ∀ c : Cursor, c.Sound → c.rest = text ++ after → Reads (f c) text after b) :
    Reads (MonadState.get >>= f) text after b :=
  fun c hc hrest => h c hc hrest c hc hrest

/-- The end is looked for behind what was read. -/
theorem Reads.closedBy {last : Reading Unit} (h : Reads r text (more ++ after) a)
    (hlast : Reads last more after ()) : Reads (closedBy r last) (text ++ more) after a := by
  intro c hc hrest
  obtain ⟨c₁, hr, hc₁, hrest₁⟩ := h c hc (by rw [hrest, List.append_assoc])
  obtain ⟨c₂, hend, hc₂, hrest₂⟩ := hlast c₁ hc₁ hrest₁
  exact ⟨c₂, by rw [Reading.closedBy, hr]; simp only [hend], hc₂, hrest₂⟩

/-- All characters that pass a test are taken. -/
theorem reads_takeWhile {p : Char → Bool} (htext : ∀ c ∈ text, p c = true)
    (hafter : ∀ c ∈ after.head?, p c = false) : Reads (takeWhile p) text after text := by
  refine .get fun c _ hrest => ?_
  have htaken : c.rest.takeWhile p = text := by
    rw [hrest, List.takeWhile_append_of_pos htext]
    cases after with
    | nil => simp
    | cons x after => simp [hafter x rfl]
  rw [htaken]
  exact (reads_foldl_next text after).last (.pure text after)

/-- Where no blank is in front, the next token begins with the next character. -/
theorem reads_peekToken {c : Char} (hc : isSpace c = false) (rest : List Char) :
    Reads peekToken [] (c :: rest) (some c) :=
  (reads_takeWhile (by simp) fun _ hd => Option.some.inj hd ▸ hc).last
    (reads_peek (c :: rest))

/-- At the end of a text there is no other token. -/
theorem reads_peekToken_nil : Reads peekToken [] [] none :=
  (reads_takeWhile (by simp) (by simp)).last (reads_peek [])

/-! ## Words -/

/-- A word is passed over. -/
theorem reads_letters (text after : List Char) : Reads (letters text) text after () := by
  induction text with
  | nil => exact .pure () after
  | cons x text ih =>
      refine (reads_peek (x :: text ++ after)).first ?_
      simp only [List.cons_append, List.head?_cons, if_true]
      exact (reads_advance x (text ++ after)).bind ih

theorem reads_restOfNull (after : List Char) :
    Reads restOfNull ['u', 'l', 'l'] after .null :=
  (reads_letters _ after).last (.pure _ after)

theorem reads_restOfTrue (after : List Char) :
    Reads restOfTrue ['r', 'u', 'e'] after (.bool true) :=
  (reads_letters _ after).last (.pure _ after)

theorem reads_restOfFalse (after : List Char) :
    Reads restOfFalse ['a', 'l', 's', 'e'] after (.bool false) :=
  (reads_letters _ after).last (.pure _ after)

/-! ## Strings -/

/-- Four digits give the number they stand for. -/
theorem reads_unit {n : Nat} (h : fourDigits text = some n) (hlength : text.length = 4)
    (after : List Char) : Reads unit text after n := by
  refine .get fun c _ hrest => ?_
  have htaken : c.rest.take 4 = text := by
    rw [hrest, ← hlength, List.take_left]
  simp only [htaken, h]
  exact (reads_foldl_next text after).last (.pure n after)

/-- A control character is read by its number. -/
theorem reads_numberedChar {c : Char} (hc : c.toNat < 32) (after : List Char) :
    Reads numberedChar ['0', '0', Text.hexDigit (c.toNat / 16), Text.hexDigit (c.toNat % 16)]
      after c := by
  have hfour : fourDigits ['0', '0', Text.hexDigit (c.toNat / 16), Text.hexDigit (c.toNat % 16)] =
      some c.toNat := by
    have hzero : Text.hexDigitValue? '0' = some 0 := by decide
    rw [fourDigits, hzero, Text.hexDigitValue?_hexDigit (by omega),
      Text.hexDigitValue?_hexDigit (by omega)]
    simp only [Option.bind_eq_bind, Option.bind_some, Option.pure_def, Option.some.injEq]
    omega
  have hlow : isLowHalf c.toNat = false := decide_eq_false (by omega)
  have hhigh : isHighHalf c.toNat = false := decide_eq_false (by omega)
  refine (reads_unit hfour rfl after).last ?_
  simp only [hlow, hhigh, Bool.false_eq_true, if_false, Char.ofNat_toNat]
  exact .pure c after

/-- A character that has a letter of its own is read by that letter. -/
theorem reads_escaped_of_short {x c : Char} (hx : x ≠ 'u') (h : shortEscape? x = some c)
    (after : List Char) : Reads escaped [x] after c := by
  refine (reads_peek (x :: after)).first ?_
  simp only [List.head?_cons, hx, if_false, h]
  exact (reads_advance x after).last (.pure c after)

/-- Every other control character is read by its number. -/
theorem reads_escaped_of_control {c : Char} (hc : c.toNat < 32) (after : List Char) :
    Reads escaped ['u', '0', '0', Text.hexDigit (c.toNat / 16), Text.hexDigit (c.toNat % 16)]
      after c := by
  refine (reads_peek _).first ?_
  simp only [List.cons_append, List.head?_cons, if_true]
  exact (reads_advance 'u' _).bind (reads_numberedChar hc after)

section StringFrom

variable {c : Char} {fuel : Nat} {done : List Char} {s : String}

/-- A character behind a backslash is read, and then the others. -/
theorem reads_stringFrom_of_escaped {written : List Char}
    (h : Reads escaped written (text ++ after) c)
    (hrest : Reads (stringFrom fuel (c :: done)) text after s) :
    Reads (stringFrom (fuel + 1) done) ('\\' :: written ++ text) after s := by
  refine (reads_peek _).first ?_
  simp only [List.cons_append, List.head?_cons, Char.reduceEq, if_true, if_false]
  exact (reads_advance '\\' _).bind (h.bind hrest)

/-- A character that stands for itself is read, and then the others. -/
theorem reads_stringFrom_of_plain (hq : c ≠ '"') (hb : c ≠ '\\') (hc : 32 ≤ c.toNat)
    (hrest : Reads (stringFrom fuel (c :: done)) text after s) :
    Reads (stringFrom (fuel + 1) done) (c :: text) after s := by
  refine (reads_peek _).first ?_
  simp only [List.cons_append, List.head?_cons, hq, hb, Nat.not_lt.mpr hc, if_false]
  exact (reads_advance c _).bind hrest

/-- A character is read as it is written, and then the others. -/
theorem reads_stringFrom_escape (hrest : Reads (stringFrom fuel (c :: done)) text after s) :
    Reads (stringFrom (fuel + 1) done) (escape c ++ text) after s := by
  have hshort : ∀ x, x ≠ 'u' → shortEscape? x = some c →
      Reads (stringFrom (fuel + 1) done) (['\\', x] ++ text) after s := fun x hx h =>
    reads_stringFrom_of_escaped (reads_escaped_of_short hx h (text ++ after)) hrest
  unfold escape
  split_ifs with hq hb hn hr ht hback hform hc
  · exact hshort '"' (by decide) (by rw [hq]; rfl)
  · exact hshort '\\' (by decide) (by rw [hb]; rfl)
  · exact hshort 'n' (by decide) (by rw [hn]; rfl)
  · exact hshort 'r' (by decide) (by rw [hr]; rfl)
  · exact hshort 't' (by decide) (by rw [ht]; rfl)
  · exact hshort 'b' (by decide) (by rw [hback]; rfl)
  · exact hshort 'f' (by decide) (by rw [hform]; rfl)
  · exact reads_stringFrom_of_escaped (reads_escaped_of_control hc (text ++ after)) hrest
  · exact reads_stringFrom_of_plain hq hb (Nat.not_lt.mp hc) hrest

end StringFrom

/-- The characters of a string are read as they are written, up to the closing quote. -/
theorem reads_stringFrom {fuel : Nat} {cs : List Char} (hfuel : cs.length < fuel)
    (done after : List Char) :
    Reads (stringFrom fuel done) (cs.flatMap escape ++ ['"']) after
      (String.ofList (done.reverse ++ cs)) := by
  induction cs generalizing fuel done with
  | nil =>
      obtain ⟨fuel, rfl⟩ := Nat.exists_eq_add_of_lt hfuel
      refine (reads_peek _).first ?_
      simp only [List.flatMap_nil, List.nil_append, List.cons_append, List.head?_cons, if_true,
        List.append_nil]
      exact (reads_advance '"' after).last (.pure _ after)
  | cons c cs ih =>
      cases fuel with
      | zero => cases hfuel
      | succ fuel =>
          have hrest := ih (Nat.lt_of_succ_lt_succ hfuel) (c :: done)
          rw [List.reverse_cons, List.append_assoc] at hrest
          rw [List.flatMap_cons, List.append_assoc]
          exact reads_stringFrom_escape hrest

/-- A string is at most as long as it is written. -/
theorem length_le_length_flatMap_escape (cs : List Char) :
    cs.length ≤ (cs.flatMap escape).length := by
  induction cs with
  | nil => exact Nat.le_refl 0
  | cons c cs ih =>
      have hc : 1 ≤ (escape c).length := by
        unfold escape
        split_ifs <;> simp
      rw [List.flatMap_cons, List.length_append, List.length_cons]
      omega

/-- A string is read as it is quoted, behind the opening quote. -/
theorem reads_string (s : String) (after : List Char) :
    Reads string (s.toList.flatMap escape ++ ['"']) after s := by
  refine .get fun c hc hrest => ?_
  have hlength := length_le_length_flatMap_escape s.toList
  have hfuel : s.toList.length < c.left + 1 := by
    rw [hc, hrest, List.length_append, List.length_append]
    omega
  simpa using reads_stringFrom hfuel [] after

/-! ## Whole numbers -/

/-- What follows does not go on with a number. -/
def EndsNumber (after : List Char) : Prop :=
  ∀ c ∈ after.head?, isDigit c = false ∧ c ≠ '.' ∧ c ≠ 'e' ∧ c ≠ 'E'

theorem isDigit_of_mem_digits {n : Nat} {c : Char} (hc : c ∈ Text.digits n) : isDigit c = true :=
  Text.isSome_of_mem_digits c hc

/-- Only nought begins with a nought. -/
theorem head?_digits_ne {n : Nat} (hn : 0 < n) : (Text.digits n).head? ≠ some '0' := by
  induction n using Nat.strongRecOn with
  | _ n ih =>
      rw [Text.digits]
      split
      · rename_i hlt
        have hall : ∀ n < 10, 0 < n → [Text.digitChar n].head? ≠ some '0' := by decide
        exact hall n hlt hn
      · obtain ⟨d, rest, hdigits⟩ := List.exists_cons_of_ne_nil (Text.digits_ne_nil (n / 10))
        have hhead := ih (n / 10) (by omega) (by omega)
        rw [hdigits] at hhead ⊢
        exact hhead

/-- Reading digits on makes a number no smaller. -/
theorem le_of_readDigits {value n : Nat} {cs : List Char}
    (h : Text.readDigits value cs = some n) : value ≤ n := by
  induction cs generalizing value with
  | nil => exact Nat.le_of_eq (Option.some.inj h)
  | cons c cs ih =>
      obtain ⟨d, -, hrest⟩ := Option.bind_eq_some_iff.mp h
      have hle := ih hrest
      omega

/-- Digits are all read where the number stays within the bound. -/
theorem clip_of_readDigits {most value n : Nat} {cs : List Char}
    (h : Text.readDigits value cs = some n) (hn : n ≤ most) : clip most value cs = (n, 0) := by
  induction cs generalizing value with
  | nil => rw [clip, Option.some.inj h]
  | cons c cs ih =>
      obtain ⟨d, hd, hrest⟩ := Option.bind_eq_some_iff.mp h
      have hle := le_of_readDigits hrest
      simp only [clip, hd, Option.getD_some, Nat.not_lt.mpr (Nat.le_trans hle hn), if_false]
      exact ih hrest

/-- Behind digits that no number goes on with, the number is what they stand for. -/
theorem reads_restOfNumber {negative : Bool} {n : Nat} {v : Json}
    (htext : ∀ c ∈ text, isDigit c = true) (hclip : clip mostDigits 0 text = (n, 0))
    (hafter : EndsNumber after) (hv : Reads (settleNumber negative n) [] after v) :
    Reads (do
      let digits ← takeWhile isDigit
      let (value, left) := clip mostDigits 0 digits
      if (← peek) == some '.' then places negative value left
      else if ← exponentAhead then exponent negative value left
      else if 0 < left then fraction negative value left
      else settleNumber negative value) text after v := by
  refine (reads_takeWhile htext fun c hc => (hafter c hc).1).last ((reads_peek after).last ?_)
  have hpoint : (after.head? == some '.') = false := by
    cases h : after.head? with
    | none => rfl
    | some c => simpa using (hafter c h).2.1
  have hexponent : (after.head?.any fun c => c == 'e' || c == 'E') = false := by
    cases h : after.head? with
    | none => rfl
    | some c => simpa using (hafter c h).2.2
  have hahead : Reads exponentAhead [] after false := by
    rw [← hexponent]
    exact (reads_peek after).last (.pure _ after)
  simp only [hclip, hpoint, Bool.false_eq_true, if_false]
  exact hahead.last hv

/-- A whole number is read as it is written, up to its sign. -/
theorem reads_number {negative : Bool} {n : Nat} {v : Json} (hn : n ≤ mostDigits)
    (hafter : EndsNumber after) (hv : Reads (settleNumber negative n) [] after v) :
    Reads (number negative) (Text.digits n) after v := by
  obtain ⟨d, rest, hdigits⟩ := List.exists_cons_of_ne_nil (Text.digits_ne_nil n)
  have hd : isDigit d = true :=
    isDigit_of_mem_digits (hdigits ▸ List.mem_cons_self : d ∈ Text.digits n)
  have hclip : clip mostDigits 0 (Text.digits n) = (n, 0) :=
    clip_of_readDigits (Text.readDigits_digits n) hn
  refine (reads_peek _).first ?_
  simp only [hdigits, List.cons_append, List.head?_cons, hd, Bool.not_true, Bool.false_eq_true,
    if_false]
  refine (reads_peek _).first ?_
  rcases Nat.eq_zero_or_pos n with rfl | hpos
  · -- A nought stands alone: no digit may follow it.
    have hzero : Text.digits 0 = ['0'] := by decide +kernel
    obtain ⟨rfl, rfl⟩ := List.cons.inj (hdigits.symm.trans hzero)
    have hahead : Reads digitAhead [] after false := by
      have hnone : after.head?.any isDigit = false := by
        cases h : after.head? with
        | none => rfl
        | some c => exact (hafter c h).1
      rw [← hnone]
      exact (reads_peek after).last (.pure _ after)
    simp only [List.cons_append, List.head?_cons, beq_self_eq_true, if_true]
    refine (reads_advance '0' after).last (hahead.last ?_)
    simp only [Bool.false_eq_true, if_false]
    exact reads_restOfNumber (by simp) rfl hafter hv
  · have hne : (some d == some '0') = false := by
      have hhead := head?_digits_ne hpos
      rw [hdigits] at hhead
      exact beq_eq_false_iff_ne.mpr hhead
    simp only [List.cons_append, List.head?_cons, hne, Bool.false_eq_true, if_false]
    rw [← hdigits]
    exact reads_restOfNumber (fun c hc => isDigit_of_mem_digits hc) hclip hafter hv

theorem reads_number_ofNat {n : Nat} (hn : n ≤ mostDigits) (hafter : EndsNumber after) :
    Reads (number false) (Text.digits n) after (.int n) :=
  reads_number hn hafter (.pure _ after)

theorem reads_number_negSucc {n : Nat} (hn : leastWhole ≤ .negSucc n)
    (hafter : EndsNumber after) :
    Reads (number true) (Text.digits (n + 1)) after (.int (.negSucc n)) := by
  have hmost : n + 1 ≤ mostDigits := by
    rw [leastWhole] at hn
    rw [mostDigits]
    omega
  refine reads_number hmost hafter ?_
  have hsmall : ¬(n + 1 = 0 ∨ -((n + 1 : Nat) : Int) < leastWhole) := by
    omega
  simp only [settleNumber, if_true, hsmall, if_false]
  exact .pure _ after

end Reading
end Json
end ProvisionWatch

import Mathlib.Data.List.TakeWhile
import Mathlib.Tactic.Ring
import ProvisionWatch.Proofs.Text.Numerals
import ProvisionWatch.Proofs.Time.Calendar
import ProvisionWatch.Time.Rfc3339

/-!
# Times that read back

Digits with zeros in front write one number, so year, month, day and the time of
day are read as they were written, and they name the second they came from.  The
text tells a leap second by second 60.  So a time inside of a leap second reads
back where its second is the last one of a minute; elsewhere the text names the
next second, or one that no minute has.

Main results:

- Theorem `read?_text`: what the text can tell reads back.
- Theorem `isReadable_of_read?`: the text can tell all that is ever read.
- Theorem `read?_text_eq_some_iff`: nothing else reads back.
-/

namespace ProvisionWatch

/-! ## Digits -/

namespace Text

/-- Digits that write a number. -/
structure Numeral (ds : List Char) (n : Nat) : Prop where
  isSome : ∀ c ∈ ds, (digitValue? c).isSome = true
  value : ofDigits ds = some n

theorem length_digits_le {width n : Nat} (h : n < 10 ^ (width + 1)) :
    (digits n).length ≤ width + 1 := by
  induction width generalizing n with
  | zero =>
      rw [digits, if_pos (by omega)]
      simp
  | succ width ih =>
      rw [digits]
      split
      · simp
      · have := ih (n := n / 10) (by omega)
        simp
        omega

/-- Zeros at the end multiply. -/
@[simp]
theorem readDigits_zeros (value count : Nat) :
    readDigits value (List.replicate count '0') = some (value * 10 ^ count) := by
  induction count generalizing value with
  | zero => simp
  | succ count ih =>
      rw [List.replicate_succ]
      show readDigits (value * 10 + 0) (List.replicate count '0') = _
      rw [ih, Nat.pow_succ']
      congr 1
      ring

/-- Digits in front count for all that follows. -/
theorem readDigits_lt {value n : Nat} {ds : List Char} (h : readDigits value ds = some n) :
    n < (value + 1) * 10 ^ ds.length := by
  induction ds generalizing value with
  | nil =>
      cases h
      simp
  | cons c ds ih =>
      obtain ⟨d, hd, hrest⟩ := Option.bind_eq_some_iff.mp h
      have hlt : d < 10 := by
        unfold digitValue? at hd
        split at hd
        · rename_i hc
          cases hd
          have := hc.2
          simp only [Char.le_def, UInt32.le_iff_toNat_le] at this
          have : c.toNat ≤ 57 := this
          omega
        · cases hd
      calc n < (value * 10 + d + 1) * 10 ^ ds.length := ih hrest
        _ ≤ ((value + 1) * 10) * 10 ^ ds.length := Nat.mul_le_mul_right _ (by omega)
        _ = (value + 1) * 10 ^ (ds.length + 1) := by ring

theorem ofDigits_eq_readDigits {ds : List Char} (h : ds ≠ []) : ofDigits ds = readDigits 0 ds := by
  cases ds with
  | nil => exact absurd rfl h
  | cons c ds => rfl

theorem ofDigits_lt {ds : List Char} {n : Nat} (h : ofDigits ds = some n) :
    n < 10 ^ ds.length := by
  have hne : ds ≠ [] := by
    rintro rfl
    cases h
  rw [ofDigits_eq_readDigits hne] at h
  simpa using readDigits_lt h

theorem toList_paddedText (width n : Nat) : (paddedText width n).toList =
    List.replicate (width - (digits n).length) '0' ++ digits n :=
  String.toList_ofList

/-- Zeros in front change nothing. -/
theorem numeral_paddedText (width n : Nat) : Numeral (paddedText width n).toList n := by
  rw [toList_paddedText]
  refine ⟨fun c hc => ?_, ?_⟩
  · rcases List.mem_append.mp hc with hc | hc
    · rw [(List.mem_replicate.mp hc).2]
      rfl
    · exact isSome_of_mem_digits c hc
  · rw [ofDigits_eq_readDigits (by simp)]
    simp

theorem length_paddedText {width n : Nat} (h : n < 10 ^ (width + 1)) :
    (paddedText (width + 1) n).toList.length = width + 1 := by
  have := length_digits_le h
  rw [toList_paddedText]
  simp
  omega

theorem length_paddedText_pos (width n : Nat) : 0 < (paddedText width n).toList.length := by
  rw [toList_paddedText]
  have := List.length_pos_iff.mpr (digits_ne_nil n)
  simp
  omega

/-- There is nothing to trim in front of a number. -/
theorem Numeral.trimStart_append {ds : List Char} {n : Nat} (h : Numeral ds n)
    (rest : List Char) : trimStart (ds ++ rest) = ds ++ rest := by
  cases ds with
  | nil => cases h.value
  | cons c ds =>
      have hc := not_isBlank_of_digit (h.isSome c List.mem_cons_self)
      simp [trimStart, hc]

/-- A number starts with a digit. -/
theorem Numeral.append_ne_cons {ds : List Char} {n : Nat} (h : Numeral ds n) {c : Char}
    (hc : (digitValue? c).isSome = false) {rest rest' : List Char} : ds ++ rest ≠ c :: rest' := by
  cases ds with
  | nil => cases h.value
  | cons d ds =>
      rintro ⟨⟩
      rw [h.isSome c List.mem_cons_self] at hc
      cases hc

end Text

/-! ## Reading what was written -/

namespace Instant

open Text (Numeral paddedText digitValue? numeral_paddedText length_paddedText)

/-- A number is read up to what is no digit any more, or up to as many as there may be. -/
theorem number_append {least most n : Nat} {ds rest : List Char} (h : Numeral ds n)
    (hleast : least ≤ ds.length) (hmost : ds.length ≤ most)
    (hend : ds.length = most ∨ rest.takeWhile (fun c => (digitValue? c).isSome) = []) :
    number least most (ds ++ rest) = .ok (n, rest) := by
  have hds : ds.takeWhile (fun c => (digitValue? c).isSome) = ds :=
    List.takeWhile_eq_self_iff.mpr h.isSome
  have htaken : ((ds ++ rest).take most).takeWhile (fun c => (digitValue? c).isSome) = ds := by
    rw [List.take_append, List.take_of_length_le hmost, List.takeWhile_append, hds, if_pos rfl]
    rcases hend with hend | hend
    · simp [hend]
    · have : (rest.take (most - ds.length)).takeWhile (fun c => (digitValue? c).isSome) = [] := by
        cases rest with
        | nil => simp
        | cons c rest =>
            cases most - ds.length with
            | zero => rfl
            | succ k =>
                rw [List.take_succ_cons]
                rw [List.takeWhile_eq_nil_iff] at hend ⊢
                simpa using hend
      simp [this]
  simp [number, htaken, h.value, Nat.not_lt.mpr hleast]

theorem looseNumber_append {least most n : Nat} (hleast : least ≤ n) (hmost : n ≤ most)
    (hn : n < 100) (rest : List Char) :
    looseNumber least most ((paddedText 2 n).toList ++ rest) = .ok (n, rest) := by
  have hlength : (paddedText 2 n).toList.length = 2 := length_paddedText hn
  have h := numeral_paddedText 2 n
  rw [looseNumber, h.trimStart_append, number_append h (by omega) (by omega) (.inl hlength)]
  simp [bind, Except.bind, pure, Except.pure, hleast, hmost]

theorem within_ok {least most n : Int} (hleast : least ≤ n) (hmost : n ≤ most)
    (rest : List Char) : within least most (.ok (n, rest)) = .ok (n, rest) := by
  simp [within, bind, Except.bind, pure, Except.pure, hleast, hmost]

/-- Four digits, or a sign and digits. -/
theorem looseYear_append {year : Int} (h : year.natAbs ≤ 300000) (rest : List Char) :
    looseYear ((yearText year).toList ++ '-' :: rest) = .ok (year, '-' :: rest) := by
  -- behind a sign all digits are read
  have hmany : number 1 (((paddedText 4 year.natAbs).toList ++ '-' :: rest).length + 1)
      ((paddedText 4 year.natAbs).toList ++ '-' :: rest) = .ok (year.natAbs, '-' :: rest) :=
    number_append (numeral_paddedText 4 _) (Text.length_paddedText_pos 4 _) (by simp; omega)
      (.inr rfl)
  unfold yearText
  split_ifs with hplain hneg
  · have hlength : (paddedText 4 year.toNat).toList.length = 4 := length_paddedText (by omega)
    have hnumeral := numeral_paddedText 4 year.toNat
    have hfour : number 1 4 ((paddedText 4 year.toNat).toList ++ '-' :: rest) =
        .ok (year.toNat, '-' :: rest) :=
      number_append hnumeral (by omega) (by omega) (.inl hlength)
    rw [looseYear, hnumeral.trimStart_append]
    split
    · rename_i hhead
      exact absurd hhead (hnumeral.append_ne_cons rfl)
    · rename_i hhead
      exact absurd hhead (hnumeral.append_ne_cons rfl)
    · rw [hfour]
      show within _ _ (.ok ((year.toNat : Int), _)) = _
      rw [within_ok (by omega) (by omega), Int.toNat_of_nonneg hplain.1]
  · have htrim : Text.trimStart (("-" ++ paddedText 4 year.natAbs).toList ++ '-' :: rest) =
        '-' :: ((paddedText 4 year.natAbs).toList ++ '-' :: rest) := by
      simp [Text.trimStart, show Text.isBlank '-' = false from rfl]
    simp only [looseYear, htrim, hmany]
    show within _ _ (.ok (-(year.natAbs : Int), _)) = _
    rw [within_ok (by omega) (by omega), show -(year.natAbs : Int) = year by omega]
  · have htrim : Text.trimStart (("+" ++ paddedText 4 year.natAbs).toList ++ '-' :: rest) =
        '+' :: ((paddedText 4 year.natAbs).toList ++ '-' :: rest) := by
      simp [Text.trimStart, show Text.isBlank '+' = false from rfl]
    simp only [looseYear, htrim, hmany]
    show within _ _ (.ok ((year.natAbs : Int), _)) = _
    rw [within_ok (by omega) (by omega), show (year.natAbs : Int) = year by omega]

/-- The digits that are left out are zeros. -/
theorem fraction_padded (width zeros : Nat) {n : Nat} (hwidth : width + 1 + zeros = 9)
    (hn : n < 10 ^ (width + 1)) (rest : List Char) :
    fraction ('.' :: ((paddedText (width + 1) n).toList ++ 'Z' :: rest)) =
      .ok (n * 10 ^ zeros, 'Z' :: rest) := by
  have hnumeral := numeral_paddedText (width + 1) n
  have hlength := length_paddedText hn
  generalize (paddedText (width + 1) n).toList = ds at *
  have hne : ds ≠ [] := List.ne_nil_of_length_eq_add_one hlength
  have hds : (ds ++ 'Z' :: rest).takeWhile (fun c => (digitValue? c).isSome) = ds := by
    rw [List.takeWhile_append, List.takeWhile_eq_self_iff.mpr hnumeral.isSome, if_pos rfl]
    simp [show (digitValue? 'Z').isSome = false from rfl]
  have hpad : (ds.take 9).rightpad 9 '0' = ds ++ List.replicate zeros '0' := by
    rw [List.take_of_length_le (by omega), List.rightpad, hlength]
    congr 2
    omega
  have hvalue : Text.ofDigits (ds ++ List.replicate zeros '0') = some (n * 10 ^ zeros) := by
    have hread := hnumeral.value
    rw [Text.ofDigits_eq_readDigits hne] at hread
    rw [Text.ofDigits_eq_readDigits (by simp [hne]), Text.readDigits_append, hread]
    exact Text.readDigits_zeros n zeros
  simp only [fraction, hds, hpad, hvalue, List.isEmpty_eq_false_iff.mpr hne, List.drop_left]
  rfl

theorem fraction_append {nano : Nat} (h : nano < 1000000000) (rest : List Char) :
    fraction ((fractionText nano).toList ++ 'Z' :: rest) = .ok (nano, 'Z' :: rest) := by
  unfold fractionText
  split_ifs with hzero hmilli hmicro
  · rw [hzero]
    rfl
  · have hread := fraction_padded 2 6 rfl
      (show nano / 1000000 < 10 ^ 3 by omega) rest
    have hexact : nano / 1000000 * 10 ^ 6 = nano := by omega
    rw [hexact] at hread
    simpa using hread
  · have hread := fraction_padded 5 3 rfl
      (show nano / 1000 < 10 ^ 6 by omega) rest
    have hexact : nano / 1000 * 10 ^ 3 = nano := by omega
    rw [hexact] at hread
    simpa using hread
  · have hread := fraction_padded 8 0 rfl
      (show nano < 10 ^ 9 by omega) rest
    simpa using hread

@[simp]
theorem looseLiteral_hyphen (rest : List Char) : looseLiteral '-' ('-' :: rest) = .ok rest :=
  rfl

@[simp]
theorem looseLiteral_colon (rest : List Char) : looseLiteral ':' (':' :: rest) = .ok rest :=
  rfl

@[simp]
theorem separator_T (rest : List Char) : separator ('T' :: rest) = .ok rest :=
  rfl

/-! ## What the text can tell -/

/-- Whether the text of an instant reads back: a leap second ends a minute. -/
def IsReadable (t : Instant) : Prop :=
  t.inLeapSecond = true → t.second % 60 = 59

instance (t : Instant) : Decidable t.IsReadable :=
  inferInstanceAs (Decidable (_ → _))

/-- The fields of an instant as its text tells them. -/
def fields (t : Instant) : Fields where
  year := t.date.year
  month := t.date.month
  day := t.date.day
  hour := (t.second % 86400).toNat / 3600
  minute := (t.second % 86400).toNat / 60 % 60
  second := (t.second % 86400).toNat % 60 + t.nano / 1000000000
  nano := t.nano % 1000000000
  offset := 0

/-- Valid fields name the second that they count to. -/
theorem Fields.instant_eq_of? {f : Fields} {t : Instant}
    (hdate : Date.isValid ⟨f.year, f.month, f.day⟩ = true)
    (hclock : f.hour ≤ 23 ∧ f.minute ≤ 59 ∧ f.second ≤ 60) (hoffset : f.offset = 0)
    (hsecond : Date.dayNumber ⟨f.year, f.month, f.day⟩ * 86400 +
      (f.hour * 3600 + f.minute * 60 + (if f.second = 60 then 59 else f.second) : Nat) = t.second)
    (hnano : (if f.second = 60 then f.nano + 1000000000 else f.nano) = t.nano) :
    f.instant = .ok t := by
  unfold Fields.instant
  have hzone : (0 : Int).natAbs < 86400 := by decide
  simp only [hdate, hclock, hzone, hsecond, hnano, hoffset, t.first_le, t.le_last, and_self,
    if_true, Int.sub_zero, of?_self]

/-- They name the instant. -/
theorem instant_fields {t : Instant} (h : t.IsReadable) : t.fields.instant = .ok t := by
  have hday := Date.dayNumber_ofDayNumber (t.second / 86400)
  have hnano := t.nano_lt
  simp only [IsReadable, inLeapSecond, decide_eq_true_eq] at h
  have hclock : ((t.second % 86400).toNat : Int) = t.second % 86400 := by omega
  have hlast : (if (t.second % 86400).toNat % 60 + t.nano / 1000000000 = 60 then 59
      else (t.second % 86400).toNat % 60 + t.nano / 1000000000) =
        (t.second % 86400).toNat % 60 := by
    split <;> omega
  refine Fields.instant_eq_of? (Date.isValid_ofDayNumber _) ⟨?_, ?_, ?_⟩ rfl ?_ ?_
  · show (t.second % 86400).toNat / 3600 ≤ 23
    omega
  · show (t.second % 86400).toNat / 60 % 60 ≤ 59
    omega
  · show (t.second % 86400).toNat % 60 + t.nano / 1000000000 ≤ 60
    omega
  · show Date.dayNumber (Date.ofDayNumber (t.second / 86400)) * 86400 +
      ((t.second % 86400).toNat / 3600 * 3600 + (t.second % 86400).toNat / 60 % 60 * 60 +
        (if (t.second % 86400).toNat % 60 + t.nano / 1000000000 = 60 then 59
          else (t.second % 86400).toNat % 60 + t.nano / 1000000000) : Nat) = t.second
    rw [hday, hlast]
    omega
  · show (if (t.second % 86400).toNat % 60 + t.nano / 1000000000 = 60
      then t.nano % 1000000000 + 1000000000 else t.nano % 1000000000) = t.nano
    split <;> omega

theorem text_toList (t : Instant) : t.text.toList =
    (yearText t.fields.year).toList ++ '-' :: ((paddedText 2 t.fields.month).toList ++
      '-' :: ((paddedText 2 t.fields.day).toList ++ 'T' :: ((paddedText 2 t.fields.hour).toList ++
      ':' :: ((paddedText 2 t.fields.minute).toList ++ ':' ::
        ((paddedText 2 t.fields.second).toList ++
          ((fractionText t.fields.nano).toList ++ 'Z' :: [])))))) := by
  simp [text, fields, String.toList_append]

/-- The text of an instant is read field by field. -/
theorem readLoosely_text (t : Instant) : readLoosely t.text = t.fields.instant := by
  have hnano := t.nano_lt
  have hfirst := t.first_le
  have hlast := t.le_last
  unfold firstSecond at hfirst
  unfold lastSecond at hlast
  have hyear : t.fields.year.natAbs ≤ 300000 :=
    Date.natAbs_year_ofDayNumber_le (n := t.second / 86400) (by omega)
  obtain ⟨hmonth, hmonth', hday, hday'⟩ :
      1 ≤ t.fields.month ∧ t.fields.month ≤ 12 ∧ 1 ≤ t.fields.day ∧ t.fields.day ≤ 31 :=
    Date.bounds_of_isValid (Date.isValid_ofDayNumber (t.second / 86400))
  have hhour : t.fields.hour ≤ 23 := by
    show (t.second % 86400).toNat / 3600 ≤ 23
    omega
  have hminute : t.fields.minute ≤ 59 := by
    show (t.second % 86400).toNat / 60 % 60 ≤ 59
    omega
  have hsecond : t.fields.second ≤ 60 := by
    show (t.second % 86400).toNat % 60 + t.nano / 1000000000 ≤ 60
    omega
  have hfraction : t.fields.nano < 1000000000 := Nat.mod_lt _ (by decide)
  have hyears := looseYear_append hyear
  have hmonths := looseNumber_append hmonth hmonth' (by omega)
  have hdays := looseNumber_append hday hday' (by omega)
  have hhours := looseNumber_append (Nat.zero_le _) hhour (by omega)
  have hminutes := looseNumber_append (Nat.zero_le _) hminute (by omega)
  have hseconds := looseNumber_append (Nat.zero_le _) hsecond (by omega)
  have hfractions := fraction_append hfraction []
  have hoffset : looseOffset (Text.trimStart ['Z']) = .ok (0, []) := rfl
  rw [readLoosely, text_toList]
  simp only [hyears, hmonths, hdays, hhours, hminutes, hseconds, hfractions, hoffset, bind,
    Except.bind, looseLiteral_hyphen, looseLiteral_colon, separator_T]
  rfl

/-- What the text can tell reads back. -/
theorem read?_text {t : Instant} (h : t.IsReadable) : read? t.text = some t := by
  rw [read?, readLoosely_text, instant_fields h]
  rfl

/-! ## What is ever read -/

theorem bind_eq_ok {p : Except Misreading α} {f : α → Except Misreading β} {b : β} :
    (p >>= f) = .ok b ↔ ∃ a, p = .ok a ∧ f a = .ok b := by
  cases p <;> simp [bind, Except.bind]

/-- Nine digits make no whole second. -/
theorem lt_of_fraction {n : Nat} {cs rest : List Char} (h : fraction cs = .ok (n, rest)) :
    n < 1000000000 := by
  unfold fraction at h
  split at h
  · rename_i digits
    dsimp only at h
    split at h
    · cases h
    · split at h
      · rename_i nano hnano
        cases h
        have hlt := Text.ofDigits_lt hnano
        rw [List.length_rightpad, Nat.max_eq_left (List.length_take_le _ _)] at hlt
        exact hlt
      · cases h
  · cases h
    decide

/-- Offsets are told in minutes. -/
theorem offset_emod {between : List Char → Except Misreading (List Char)} {zone : Int}
    {cs rest : List Char} (h : offset between cs = .ok (zone, rest)) : zone % 60 = 0 := by
  unfold offset at h
  split at h
  · cases h
    rfl
  · cases h
    rfl
  · simp only [bind_eq_ok] at h
    obtain ⟨⟨sign, _⟩, hsign, ⟨hours, _⟩, -, _, -, ⟨minutes, _⟩, -, h⟩ := h
    dsimp only at h
    split at h
    · cases h
      push_cast
      rw [show sign * ((hours : Int) * 3600 + minutes * 60) =
        sign * (hours * 60 + minutes) * 60 by ring]
      exact Int.mul_emod_left _ _
    · cases h

theorem looseOffset_emod {zone : Int} {cs rest : List Char}
    (h : looseOffset cs = .ok (zone, rest)) : zone % 60 = 0 := by
  unfold looseOffset at h
  split at h
  · cases h
    rfl
  · exact offset_emod h

/-- What the fields count to, less the offset. -/
theorem Fields.of?_of_instant {f : Fields} {t : Instant} (h : f.instant = .ok t) :
    of? (Date.dayNumber ⟨f.year, f.month, f.day⟩ * 86400 + (f.hour * 3600 + f.minute * 60 +
        (if f.second = 60 then 59 else f.second) : Nat) - f.offset)
      (if f.second = 60 then f.nano + 1000000000 else f.nano) = some t := by
  simp only [Fields.instant] at h
  generalize (if f.second = 60 then 59 else f.second) = second at *
  generalize (if f.second = 60 then f.nano + 1000000000 else f.nano) = nano at *
  split at h
  · split at h
    · split at h
      · rename_i ht
        rw [ht, Except.ok.inj h]
      · cases h
    · cases h
  · cases h

theorem of?_eq_some {second : Int} {nano : Nat} {t : Instant} (h : of? second nano = some t) :
    t.second = second ∧ t.nano = nano := by
  unfold of? at h
  split at h
  · cases h
    exact ⟨rfl, rfl⟩
  · cases h

/-- Second 60 is read as the end of second 59, in every zone. -/
theorem Fields.isReadable_of_instant {f : Fields} {t : Instant} (h : f.instant = .ok t)
    (hnano : f.nano < 1000000000) (hoffset : f.offset % 60 = 0) : t.IsReadable := by
  obtain ⟨hsecond, hfraction⟩ := of?_eq_some (of?_of_instant h)
  simp only [IsReadable, inLeapSecond, decide_eq_true_eq]
  intro hleap
  by_cases hlast : f.second = 60
  · rw [if_pos hlast] at hsecond
    omega
  · rw [if_neg hlast] at hfraction
    omega

/-- The text can tell all that is ever read. -/
theorem isReadable_of_read? {s : String} {t : Instant} (h : read? s = some t) :
    t.IsReadable := by
  have hread : readLoosely s = .ok t := by
    unfold read? at h
    cases hs : readLoosely s with
    | error _ =>
        rw [hs] at h
        cases h
    | ok t' =>
        rw [hs] at h
        rw [Option.some.inj h]
  simp only [readLoosely, bind_eq_ok] at hread
  obtain ⟨_, -, _, -, _, -, _, -, _, -, _, -, _, -, _, -, _, -, _, -, _, -, ⟨nano, _⟩, hnano,
    ⟨zone, _⟩, hzone, hinstant⟩ := hread
  dsimp only at hinstant
  split at hinstant
  · exact Fields.isReadable_of_instant hinstant (lt_of_fraction hnano) (looseOffset_emod hzone)
  · cases hinstant

/-- An instant reads back from its text exactly when a leap second ends a minute. -/
theorem read?_text_eq_some_iff {t : Instant} : read? t.text = some t ↔ t.IsReadable :=
  ⟨isReadable_of_read?, read?_text⟩

example : text default = "1970-01-01T00:00:00Z" := by
  decide +kernel

end Instant
end ProvisionWatch

import Mathlib.Data.List.Forall2
import ProvisionWatch.Proofs.Text.Numerals
import ProvisionWatch.Target

/-!
# The grammar of requests

A request is written as a path, and after a question mark some parameters.  The path
loses the blanks at its ends and then the slashes, and what is left is a namespace and
a name with a slash in between.  The parameters are pieces between ampersands, each of
which asks for a timeout; empty ones say nothing.

This is said here without the reader, and the reader accepts exactly that.

Main results:

- Theorem `Target.spelledBy_iff`: which paths stand for a target.
- Theorem `Target.Sound.spelledBy_text`: what a target is read back as.
- Theorem `Request.readParameters_eq_ok_iff`: which parameters ask for which timeout.
- Theorem `Request.read_eq_ok_iff`: a text is read as the request it stands for.
- Theorem `Request.read_accepts_grammar`: the reader accepts exactly the grammar, and
  what is plain is read back as it was written.
-/

namespace ProvisionWatch

open Text (Stripped NotBefore NotBehind Denotes isBlank)

/-! ## Paths -/

namespace Target

/-- No slash stands in a part of a target, and neither part is blank. -/
structure Sound (t : Target) : Prop where
  ns_whole : '/' ∉ t.ns.toList
  name_whole : '/' ∉ t.name.toList
  ns_shown : ∃ c ∈ t.ns.toList, isBlank c = false
  name_shown : ∃ c ∈ t.name.toList, isBlank c = false

/-- A path stands for a target: without the blanks and then without the slashes at its ends, it is
the target as it is written, with one slash and a text that is not blank on each side. -/
structure SpelledBy (t : Target) (path : List Char) : Prop extends t.Sound where
  bare : ∃ unpadded, Stripped isBlank path unpadded ∧ Stripped (· == '/') unpadded t.text.toList

theorem toList_text (t : Target) : t.text.toList = t.ns.toList ++ '/' :: t.name.toList := by
  simp [text]

theorem parts_eq_iff {t : Target} {ns name : List Char} :
    [ns, name] = [t.ns.toList, t.name.toList] ↔ ⟨String.ofList ns, String.ofList name⟩ = t := by
  obtain ⟨ns', name'⟩ := t
  simp [← String.toList_inj]

theorem isBlankText_eq_false_iff {part : String} :
    Text.isBlankText part = false ↔ ∃ c ∈ part.toList, isBlank c = false := by
  simp [Text.isBlankText]

theorem trimPath_iff {path bare : List Char} :
    Request.trimPath path = bare ↔
      ∃ unpadded, Stripped isBlank path unpadded ∧ Stripped (· == '/') unpadded bare := by
  rw [Request.trimPath, ← Text.stripped_iff]
  exact ⟨fun h => ⟨_, Text.trimChars_iff.mp rfl, h⟩,
    fun ⟨_, hunpadded, h⟩ => Text.trimChars_iff.mpr hunpadded ▸ h⟩

/-- A path stands for a target exactly if it has the two parts of a sound target. -/
theorem spelledBy_iff {t : Target} {path : List Char} :
    t.SpelledBy path ↔
      Text.pieces '/' (Request.trimPath path) = [t.ns.toList, t.name.toList] ∧ t.check = none := by
  rw [Text.pieces_eq_pair_iff, ← toList_text, trimPath_iff, check_eq_none_iff,
    isBlankText_eq_false_iff, isBlankText_eq_false_iff]
  exact ⟨fun ⟨⟨hns, hname, hns', hname'⟩, bare⟩ => ⟨⟨bare, hns, hname⟩, hns', hname'⟩,
    fun ⟨⟨bare, hns, hname⟩, hns', hname'⟩ => ⟨⟨hns, hname, hns', hname'⟩, bare⟩⟩

/-! ## Targets as they are written -/

/-- The target that is read from a target as it is written: the blanks in front of the namespace and
behind the name are at the ends of the text, and are lost. -/
def tidied (t : Target) : Target where
  ns := String.ofList (Text.trimStart t.ns.toList)
  name := String.ofList (Text.dropEndWhile isBlank t.name.toList)

theorem toList_tidied_ns (t : Target) : t.tidied.ns.toList = Text.trimStart t.ns.toList := by
  rw [tidied, String.toList_ofList]

theorem toList_tidied_name (t : Target) :
    t.tidied.name.toList = Text.dropEndWhile isBlank t.name.toList := by
  rw [tidied, String.toList_ofList]

theorem tidied_eq_self_iff {t : Target} :
    t.tidied = t ↔ NotBefore isBlank t.ns.toList ∧ NotBehind isBlank t.name.toList := by
  rw [tidied, ← parts_eq_iff, List.cons_eq_cons, List.cons_eq_cons, and_iff_left rfl]
  refine and_congr ⟨fun h => ?_, Text.dropWhile_of_notBefore⟩
    ⟨fun h => ?_, Text.dropEndWhile_of_notBehind⟩
  · rw [← h]
    exact Text.notBefore_dropWhile isBlank _
  · rw [← h]
    exact Text.notBehind_dropEndWhile isBlank _

theorem Sound.ns_ne_nil {t : Target} (h : t.Sound) : t.ns.toList ≠ [] :=
  have ⟨_, hc, _⟩ := h.ns_shown
  List.ne_nil_of_mem hc

theorem Sound.name_ne_nil {t : Target} (h : t.Sound) : t.name.toList ≠ [] :=
  have ⟨_, hc, _⟩ := h.name_shown
  List.ne_nil_of_mem hc

theorem Sound.tidied {t : Target} (h : t.Sound) : t.tidied.Sound := by
  obtain ⟨hns, hname, ⟨c, hc, hcblank⟩, d, hd, hdblank⟩ := h
  refine ⟨?_, ?_, ⟨c, ?_, hcblank⟩, d, ?_, hdblank⟩
  · rw [toList_tidied_ns]
    exact fun hslash => hns ((List.dropWhile_suffix isBlank).subset hslash)
  · rw [toList_tidied_name]
    exact fun hslash => hname (Text.dropEndWhile_subset isBlank _ hslash)
  · rw [toList_tidied_ns]
    exact Text.mem_dropWhile_of_mem hc hcblank
  · rw [toList_tidied_name]
    exact Text.mem_dropEndWhile_of_mem hd hdblank

/-- Without the blanks at its ends, a target as it is written is the tidied target as it is written.
-/
theorem Sound.stripped_text {t : Target} (h : t.Sound) :
    Stripped isBlank t.text.toList t.tidied.text.toList := by
  rw [toList_text, toList_text]
  refine ⟨?_, NotBefore.append ?_ h.tidied.ns_ne_nil _, ?_⟩
  · obtain ⟨back, hback, hblank⟩ := Text.exists_dropEndWhile_append isBlank t.name.toList
    refine ⟨t.ns.toList.takeWhile isBlank, back, ?_, fun _ => List.mem_takeWhile_imp, hblank⟩
    rw [toList_tidied_ns, toList_tidied_name, ← List.append_assoc, Text.trimStart,
      List.takeWhile_append_dropWhile, List.append_assoc, List.cons_append, ← hback]
  · rw [toList_tidied_ns]
    exact Text.notBefore_dropWhile isBlank _
  · rw [List.append_cons]
    refine NotBehind.append ?_ h.tidied.name_ne_nil _
    rw [toList_tidied_name]
    exact Text.notBehind_dropEndWhile isBlank _

/-- No slash stands at an end of a target as it is written. -/
theorem Sound.stripped_self {t : Target} (h : t.Sound) :
    Stripped (· == '/') t.text.toList t.text.toList := by
  rw [toList_text]
  refine Stripped.refl ?_ ?_
  · exact NotBefore.append (Text.notBefore_of_not_mem h.ns_whole) h.ns_ne_nil _
  · rw [List.append_cons]
    exact NotBehind.append (Text.notBehind_of_not_mem h.name_whole) h.name_ne_nil _

/-- A target as it is written stands for the tidied target. -/
theorem Sound.spelledBy_text {t : Target} (h : t.Sound) : t.tidied.SpelledBy t.text.toList :=
  ⟨h.tidied, t.tidied.text.toList, h.stripped_text, h.tidied.stripped_self⟩

/-- A part of a target that can be written as it is: it has characters, none of them is reserved,
and no blank stands at its ends. -/
structure PlainPart (part : String) : Prop where
  nonempty : part ≠ ""
  no_slash : '/' ∉ part.toList
  no_question : '?' ∉ part.toList
  unpadded_front : NotBefore isBlank part.toList
  unpadded_back : NotBehind isBlank part.toList

instance (part : String) : Decidable (PlainPart part) :=
  decidable_of_iff
    (part ≠ "" ∧ '/' ∉ part.toList ∧ '?' ∉ part.toList ∧ NotBefore isBlank part.toList ∧
      NotBehind isBlank part.toList)
    ⟨fun ⟨hne, hslash, hquestion, hfront, hback⟩ => ⟨hne, hslash, hquestion, hfront, hback⟩,
      fun ⟨hne, hslash, hquestion, hfront, hback⟩ => ⟨hne, hslash, hquestion, hfront, hback⟩⟩

theorem PlainPart.shown {part : String} (h : PlainPart part) :
    ∃ c ∈ part.toList, isBlank c = false := by
  have hhead := List.head?_eq_some_head (String.toList_eq_nil_iff.not.mpr h.nonempty)
  exact ⟨_, List.mem_of_head? hhead, h.unpadded_front _ hhead⟩

/-- A target both of whose parts can be written as they are. -/
structure Plain (t : Target) : Prop where
  ns : PlainPart t.ns
  name : PlainPart t.name

theorem Plain.sound {t : Target} (h : t.Plain) : t.Sound :=
  ⟨h.ns.no_slash, h.name.no_slash, h.ns.shown, h.name.shown⟩

theorem Plain.tidied_eq {t : Target} (h : t.Plain) : t.tidied = t :=
  tidied_eq_self_iff.mpr ⟨h.ns.unpadded_front, h.name.unpadded_back⟩

theorem not_question_of_mem_text {t : Target} (hns : '?' ∉ t.ns.toList)
    (hname : '?' ∉ t.name.toList) : '?' ∉ t.text.toList := by
  rw [toList_text]
  simp [hns, hname]

end Target

/-! ## Parameters -/

namespace Request

/-- A piece of the parameters asks for so many seconds. -/
def AsksFor (piece : List Char) (seconds : Nat) : Prop :=
  ∃ value, piece = "timeout=".toList ++ value ∧ Denotes value seconds ∧
    1 ≤ seconds ∧ seconds ≤ 9223372036854775807

theorem readTimeout_eq_ok_iff {value : List Char} {d : Duration} :
    readTimeout (String.ofList value) = .ok d ↔
      ∃ n, Denotes value n ∧ 1 ≤ n ∧ n ≤ 9223372036854775807 ∧ d = .ofSeconds n := by
  rw [readTimeout, String.toList_ofList]
  constructor
  · intro h
    split at h
    · rename_i seconds hread
      split at h
      · rename_i hrange
        obtain ⟨hpos, hle⟩ := hrange
        obtain ⟨n, rfl⟩ := Int.eq_ofNat_of_zero_le hpos.le
        have hn : 0 < n := Int.natCast_pos.mp hpos
        refine ⟨n, (Text.readSigned_trimChars_iff hn).mp hread, hn, ?_, (Except.ok.inj h).symm⟩
        rw [greatestTimeout] at hle
        omega
      · cases h
    · cases h
  · rintro ⟨n, hdenotes, hpos, hle, rfl⟩
    rw [(Text.readSigned_trimChars_iff hpos).mpr hdenotes]
    have hrange : (0 : Int) < n ∧ (n : Int) ≤ greatestTimeout := by
      rw [greatestTimeout]
      omega
    simp only [if_pos hrange, Int.toNat_natCast]

/-- Parameters that are read ask for a number of seconds first, if the first piece is not empty. -/
theorem readParameters_cons_iff {timeout d : Option Duration} {piece : List Char}
    {rest : List (List Char)} (hpiece : piece.isEmpty = false) :
    readParameters timeout (piece :: rest) = .ok d ↔
      ∃ n, AsksFor piece n ∧ readParameters (some (.ofSeconds n)) rest = .ok d := by
  rw [readParameters, hpiece, if_neg Bool.false_ne_true]
  constructor
  · intro h
    split at h
    · rename_i name value hcut
      obtain ⟨rfl, -⟩ := (Text.cut_eq_some_iff _ _ _ _).mp hcut
      split at h
      · rename_i hname
        subst hname
        split at h
        · rename_i first hread
          obtain ⟨n, hdenotes, hpos, hle, rfl⟩ := readTimeout_eq_ok_iff.mp hread
          exact ⟨n, ⟨value, rfl, hdenotes, hpos, hle⟩, h⟩
        · cases h
      · cases h
    · cases h
  · rintro ⟨n, ⟨value, rfl, hdenotes, hpos, hle⟩, hrest⟩
    have hcut : Text.cut '=' ("timeout=".toList ++ value) = some ("timeout".toList, value) :=
      (Text.cut_eq_some_iff _ _ _ _).mpr ⟨rfl, by decide⟩
    have hread : readTimeout (String.ofList value) = .ok (.ofSeconds n) :=
      readTimeout_eq_ok_iff.mpr ⟨n, hdenotes, hpos, hle, rfl⟩
    simp only [hcut, hread, if_true]
    exact hrest

/-- Parameters are read exactly if each piece that is not empty asks for a number of seconds, and of
these numbers the last one counts. -/
theorem readParameters_eq_ok_iff {timeout d : Option Duration} {pieces : List (List Char)} :
    readParameters timeout pieces = .ok d ↔
      ∃ seconds, List.Forall₂ AsksFor (pieces.filter fun piece => !piece.isEmpty) seconds ∧
        d = (seconds.getLast?.map Duration.ofSeconds).or timeout := by
  induction pieces generalizing timeout with
  | nil => simp [readParameters, eq_comm]
  | cons piece rest ih =>
      cases hpiece : piece.isEmpty with
      | true => rw [readParameters, if_pos hpiece, ih, List.filter_cons_of_neg (by simp [hpiece])]
      | false =>
          rw [readParameters_cons_iff hpiece, List.filter_cons_of_pos (by simp [hpiece])]
          simp only [ih]
          have hlast : ∀ (n : Nat) (more : List Nat),
              ((n :: more).getLast?.map Duration.ofSeconds).or timeout =
                (more.getLast?.map Duration.ofSeconds).or (some (.ofSeconds n)) := by
            intro n more
            rw [List.getLast?_cons]
            cases more.getLast? <;> rfl
          constructor
          · rintro ⟨n, hn, more, hmore, rfl⟩
            exact ⟨n :: more, .cons hn hmore, (hlast n more).symm⟩
          · rintro ⟨seconds, hseconds, rfl⟩
            cases hseconds with
            | @cons _ n _ more hn hmore => exact ⟨n, hn, more, hmore, hlast n more⟩

/-! ## Requests -/

/-- A text stands for a request: what is in front of its first question mark stands for the target,
and of the pieces between ampersands behind it each one that is not empty asks for a number of
seconds. The last of these is the timeout. -/
def SpelledBy (r : Request) (raw : String) : Prop :=
  ∃ path query seconds,
    (raw.toList = path ∧ query = [] ∨ raw.toList = path ++ '?' :: query) ∧ '?' ∉ path ∧
      r.target.SpelledBy path ∧
        List.Forall₂ AsksFor ((query.splitOn '&').filter fun piece => !piece.isEmpty) seconds ∧
          r.timeout = seconds.getLast?.map Duration.ofSeconds

/-- Read a path and the pieces of the parameters. -/
def readParts (raw : String) (path : List Char) (query : List (List Char)) :
    Except RequestError Request :=
  match Text.pieces '/' (trimPath path) with
  | [ns, name] =>
      let target : Target := { ns := String.ofList ns, name := String.ofList name }
      match target.check with
      | some e => .error e
      | none => (readParameters none query).map fun timeout => ⟨target, timeout⟩
  | _ => .error (.shape raw)

theorem read_of_cut {raw : String} {path query : List Char}
    (h : Text.cut '?' raw.toList = some (path, query)) :
    read raw = readParts raw path (Text.pieces '&' query) := by
  rw [read, h]
  rfl

theorem read_of_not_cut {raw : String} (h : Text.cut '?' raw.toList = none) :
    read raw = readParts raw raw.toList [] := by
  rw [read, h]
  rfl

theorem readParts_eq_ok_iff {raw : String} {path : List Char} {query : List (List Char)}
    {r : Request} :
    readParts raw path query = .ok r ↔
      r.target.SpelledBy path ∧ readParameters none query = .ok r.timeout := by
  rw [Target.spelledBy_iff, readParts]
  split
  · rename_i ns name hpieces
    rw [hpieces, Target.parts_eq_iff]
    dsimp only
    constructor
    · intro h
      split at h
      · cases h
      · rename_i hcheck
        cases hread : readParameters none query with
        | error e =>
            rw [hread] at h
            cases h
        | ok timeout =>
            rw [hread] at h
            obtain rfl := Except.ok.inj h
            exact ⟨⟨rfl, hcheck⟩, rfl⟩
    · rintro ⟨⟨htarget, hcheck⟩, hread⟩
      rw [htarget, hcheck, hread]
      rfl
  · rename_i hpieces
    exact ⟨nofun, fun h => absurd h.1.1 (hpieces _ _)⟩

/-- A text is read exactly as the request it stands for. -/
theorem read_eq_ok_iff {raw : String} {r : Request} : read raw = .ok r ↔ r.SpelledBy raw := by
  cases hcut : Text.cut '?' raw.toList with
  | none =>
      have hraw := Text.cut_eq_none_iff.mp hcut
      rw [read_of_not_cut hcut, readParts_eq_ok_iff, readParameters]
      constructor
      · rintro ⟨htarget, htimeout⟩
        exact ⟨raw.toList, [], [], .inl ⟨rfl, rfl⟩, hraw, htarget, .nil,
          (Except.ok.inj htimeout).symm⟩
      · rintro ⟨path, query, seconds, ⟨rfl, rfl⟩ | hparts, -, htarget, hseconds, htimeout⟩
        · obtain rfl := List.forall₂_nil_left_iff.mp hseconds
          exact ⟨htarget, congrArg Except.ok htimeout.symm⟩
        · exact absurd (hparts ▸ List.mem_append_right path List.mem_cons_self) hraw
  | some parts =>
      obtain ⟨path, query⟩ := parts
      obtain ⟨hraw, hpath⟩ := (Text.cut_eq_some_iff _ _ _ _).mp hcut
      rw [read_of_cut hcut, readParts_eq_ok_iff, Text.pieces_eq_splitOn, readParameters_eq_ok_iff]
      constructor
      · rintro ⟨htarget, seconds, hseconds, htimeout⟩
        rw [Option.or_none] at htimeout
        exact ⟨path, query, seconds, .inr hraw, hpath, htarget, hseconds, htimeout⟩
      · rintro ⟨path', query', seconds, ⟨hraw', -⟩ | hraw', hpath', htarget, hseconds, htimeout⟩
        · exact absurd (hraw' ▸ hraw ▸ List.mem_append_right path List.mem_cons_self) hpath'
        · have hcut' := (Text.cut_eq_some_iff _ _ _ _).mpr ⟨hraw', hpath'⟩
          obtain ⟨rfl, rfl⟩ := Prod.mk.inj (Option.some.inj (hcut.symm.trans hcut'))
          exact ⟨htarget, seconds, hseconds, Option.or_none.symm ▸ htimeout⟩

/-! ## Requests as they are written -/

/-- The request as it is written: the target and, if there is one, the timeout in seconds. -/
def text (r : Request) : String :=
  r.target.text ++ match r.timeout with
    | none => ""
    | some d => "?timeout=" ++ Text.natText d.wholeSeconds

/-- The request that is read from a request as it is written. -/
def tidied (r : Request) : Request :=
  { r with target := r.target.tidied }

/-- A timeout that can be asked for. -/
def InRange (d : Duration) : Prop :=
  ∃ n, 1 ≤ n ∧ n ≤ 9223372036854775807 ∧ d = .ofSeconds n

theorem inRange_of_mem {pieces : List (List Char)} {seconds : List Nat}
    (h : List.Forall₂ AsksFor pieces seconds) : ∀ n ∈ seconds, InRange (.ofSeconds n) := by
  induction h with
  | nil => exact nofun
  | cons hn _ ih =>
      obtain ⟨-, -, -, hpos, hle⟩ := hn
      exact List.forall_mem_cons.mpr ⟨⟨_, hpos, hle, rfl⟩, ih⟩

theorem SpelledBy.inRange {r : Request} {raw : String} (h : r.SpelledBy raw) :
    ∀ d ∈ r.timeout, InRange d := by
  obtain ⟨_, _, seconds, _, _, _, hseconds, htimeout⟩ := h
  rw [htimeout]
  intro d hd
  obtain ⟨n, hn, rfl⟩ := Option.map_eq_some_iff.mp hd
  exact inRange_of_mem hseconds n (List.mem_of_getLast? hn)

theorem SpelledBy.target_sound {r : Request} {raw : String} (h : r.SpelledBy raw) :
    r.target.Sound := by
  obtain ⟨_, _, _, _, _, htarget, _⟩ := h
  exact htarget.toSound

/-- The target of an accepted text stands in its path, where no question mark does. -/
theorem SpelledBy.no_question {r : Request} {raw : String} (h : r.SpelledBy raw) :
    '?' ∉ r.target.text.toList := by
  obtain ⟨path, _, _, _, hpath, htarget, _⟩ := h
  obtain ⟨unpadded, hunpadded, hbare⟩ := htarget.bare
  exact fun hmem => hpath (hunpadded.subset (hbare.subset hmem))

/-- The one piece of the parameters of a request as it is written. -/
theorem asksFor_timeout {n : Nat} (hpos : 1 ≤ n) (hle : n ≤ 9223372036854775807) :
    List.Forall₂ AsksFor
      ((("timeout=".toList ++ Text.digits n).splitOn '&').filter fun piece => !piece.isEmpty)
      [n] := by
  have hwhole : '&' ∉ "timeout=".toList ++ Text.digits n := by
    rw [List.mem_append, not_or]
    exact ⟨by decide, fun h => Bool.false_ne_true (Text.isDigit_of_mem_digits _ h)⟩
  rw [List.splitOn_eq_singleton hwhole, List.filter_cons_of_pos (by simp), List.filter_nil]
  exact .cons ⟨_, rfl, Text.denotes_digits n, hpos, hle⟩ .nil

/-- A request as it is written stands for the tidied request. -/
theorem spelledBy_text {r : Request} (htarget : r.target.Sound)
    (hquestion : '?' ∉ r.target.text.toList) (htimeout : ∀ d ∈ r.timeout, InRange d) :
    r.tidied.SpelledBy r.text := by
  obtain ⟨target, timeout⟩ := r
  cases timeout with
  | none =>
      refine ⟨target.text.toList, [], [], .inl ⟨?_, rfl⟩, hquestion, htarget.spelledBy_text, .nil,
        rfl⟩
      rw [text, String.append_empty]
  | some d =>
      obtain ⟨n, hpos, hle, rfl⟩ := htimeout d rfl
      refine ⟨target.text.toList, "timeout=".toList ++ Text.digits n, [n], .inr ?_, hquestion,
        htarget.spelledBy_text, asksFor_timeout hpos hle, rfl⟩
      simp [text, Text.natText]

/-- The reader accepts exactly the texts that stand for a request, and reads that request.  So a
plain target that is written, without a timeout or with one that is in range, is read back as it
was. -/
theorem read_accepts_grammar :
    (∀ (raw : String) (r : Request), read raw = .ok r ↔ r.SpelledBy raw) ∧
      ∀ t : Target, t.Plain →
        read t.text = .ok ⟨t, none⟩ ∧
          ∀ n : Nat, 1 ≤ n → n ≤ 9223372036854775807 →
            read (t.text ++ ("?timeout=" ++ Text.natText n)) = .ok ⟨t, some (.ofSeconds n)⟩ := by
  refine ⟨fun raw r => read_eq_ok_iff, fun t ht => ?_⟩
  have hback : ∀ timeout : Option Duration, (∀ d ∈ timeout, InRange d) →
      read (text ⟨t, timeout⟩) = .ok ⟨t, timeout⟩ := by
    intro timeout htimeout
    have hspelled := spelledBy_text (r := ⟨t, timeout⟩) ht.sound
      (Target.not_question_of_mem_text ht.ns.no_question ht.name.no_question) htimeout
    rw [tidied, ht.tidied_eq] at hspelled
    exact read_eq_ok_iff.mpr hspelled
  constructor
  · have hplain := hback none nofun
    rwa [text, String.append_empty] at hplain
  · intro n hpos hle
    have htimed := hback (some (.ofSeconds n)) fun d hd => ⟨n, hpos, hle, (Option.some.inj hd).symm⟩
    dsimp only [text] at htimed
    rwa [Duration.wholeSeconds_ofSeconds] at htimed

/-- Blanks and slashes around the path, pieces that are empty, and of two timeouts the last. -/
theorem read_accepts_grammar_of_padded_text :
    read " /kcm-system/prod-eu-1/ ?&timeout=0600&timeout= +60&" =
        .ok ⟨⟨"kcm-system", "prod-eu-1"⟩, some (.ofSeconds 60)⟩ ∧
      (⟨⟨"kcm-system", "prod-eu-1"⟩, some (.ofSeconds 60)⟩ : Request).SpelledBy
        " /kcm-system/prod-eu-1/ ?&timeout=0600&timeout= +60&" ∧
      read "kcm-system/prod-eu-1?timeout=600" =
        .ok ⟨⟨"kcm-system", "prod-eu-1"⟩, some (.ofSeconds 600)⟩ := by
  have hread : read " /kcm-system/prod-eu-1/ ?&timeout=0600&timeout= +60&" =
      .ok ⟨⟨"kcm-system", "prod-eu-1"⟩, some (.ofSeconds 60)⟩ := by decide +kernel
  have hplain : Target.Plain ⟨"kcm-system", "prod-eu-1"⟩ := ⟨by decide +kernel, by decide +kernel⟩
  have htext : Target.text ⟨"kcm-system", "prod-eu-1"⟩ ++ ("?timeout=" ++ Text.natText 600) =
      "kcm-system/prod-eu-1?timeout=600" := by decide +kernel
  refine ⟨hread, (read_accepts_grammar.1 _ _).mp hread, ?_⟩
  rw [← htext]
  exact (read_accepts_grammar.2 _ hplain).2 600 (by decide) (by decide)

end Request
end ProvisionWatch

import ProvisionWatch.Proofs.Text.Occurring
import ProvisionWatch.Text.Decimal
import ProvisionWatch.Watch

/-!
# Marks in a message

The kind of an error is told by marks that are looked for anywhere in its message.
The heading that names where an error came from has none of them, so an error is
recorded under the kind of its message.  Numbers are another matter: a version of
the cluster is written with digits, and digits are what the code of a refusal is
made of.

Main results:

- Theorems `recordedKind_api` and `recordedKind_stream`: the kind that is recorded
  is the kind of the message.
- Theorem `ofMessage_tooOld`: what is made of a message about an old version.
-/

namespace ProvisionWatch
namespace WatchErrorKind

/-! ## Headings -/

/-- Every mark there is. -/
def marks : List String :=
  unauthorizedMarks ++ expiredMarks ++ throttledMarks ++ ["ObjectNotFound", "404", "not found"]

/-- No mark has a colon, and none begins with a blank. -/
theorem plain_of_mem_marks :
    ∀ mark ∈ marks, ':' ∉ mark.toList ∧ mark.toList.head? ≠ some ' ' := by
  decide

/-- A heading without marks adds none to a message. -/
theorem ofMessage_headed {heading : String}
    (h : ∀ mark ∈ marks, Text.contains heading mark = false) (m : String) :
    ofMessage (heading ++ ": " ++ m) = ofMessage m := by
  have hmark : ∀ mark ∈ marks,
      Text.contains (heading ++ ": " ++ m) mark = Text.contains m mark := by
    intro mark hmem
    obtain ⟨hcolon, hblank⟩ := plain_of_mem_marks mark hmem
    exact Text.contains_headed hcolon hblank (h mark hmem) m
  have hmarked : ∀ some, some ⊆ marks →
      marked (heading ++ ": " ++ m) some = marked m some := by
    intro some hsome
    unfold marked
    rw [Bool.eq_iff_iff, List.any_eq_true, List.any_eq_true]
    exact exists_congr fun mark => and_congr_right fun hmem => by rw [hmark mark (hsome hmem)]
  unfold ofMessage
  rw [hmarked unauthorizedMarks (by decide), hmarked expiredMarks (by decide),
    hmarked throttledMarks (by decide), hmark "ObjectNotFound" (by decide),
    hmark "404" (by decide), hmark "not found" (by decide)]

/-! ## Versions that are too old -/

/-- What the cluster says about a version that is gone: it names that version and the current one.
-/
def tooOld (asked current : Nat) : String :=
  "too old resource version: " ++ Text.natText asked ++ " (" ++ Text.natText current ++ ")"

/-- The digits of a number spell the code of a refusal somewhere. -/
def spellsRefusal (n : Nat) : Bool :=
  ["401", "403"].any fun code => Text.contains (Text.natText n) code

/-- What is no digit is not found in a number. -/
theorem contains_natText_of_not_digit {needle : String} {c : Char} (hc : c ∈ needle.toList)
    (hdigit : Text.digitValue? c = none) (n : Nat) :
    Text.contains (Text.natText n) needle = false := by
  rw [Bool.eq_false_iff, Ne, Text.contains_iff, Text.natText, String.toList_ofList]
  intro hfound
  have hvalue := Text.isSome_of_mem_digits c (hfound.subset hc)
  rw [hdigit] at hvalue
  cases hvalue

/-- Words, a number, and another one in brackets. -/
theorem toList_bracketed (words asked current : String) :
    (words ++ " " ++ asked ++ " (" ++ current ++ ")").toList =
      words.toList ++ ' ' :: (asked.toList ++ ' ' ::
        ([] ++ '(' :: (current.toList ++ ')' :: []))) := by
  simp

theorem tooOld_eq (asked current : Nat) :
    tooOld asked current = "too old resource version:" ++ " " ++ Text.natText asked ++ " (" ++
      Text.natText current ++ ")" :=
  rfl

/-- What has no blank and no bracket, and is not in the words of the message, is found in one of its
two numbers if at all. -/
theorem contains_tooOld {needle : String} (hblank : ' ' ∉ needle.toList)
    (hopen : '(' ∉ needle.toList) (hclose : ')' ∉ needle.toList)
    (hwords : Text.contains "too old resource version:" needle = false) (asked current : Nat) :
    Text.contains (tooOld asked current) needle =
      (Text.contains (Text.natText asked) needle ||
        Text.contains (Text.natText current) needle) := by
  rw [← Bool.not_eq_true, Text.contains_iff] at hwords
  have hempty : ¬ needle.toList <:+: [] := fun h => hwords (h.trans List.nil_infix)
  rw [Bool.eq_iff_iff, Bool.or_eq_true, Text.contains_iff, Text.contains_iff, Text.contains_iff,
    tooOld_eq, toList_bracketed, Text.infix_append_cons_iff hblank,
    Text.infix_append_cons_iff hblank,
    Text.infix_append_cons_iff hopen, Text.infix_append_cons_iff hclose, or_iff_right hwords,
    or_iff_right hempty, or_iff_left hempty]

/-- All that can make a message about an old version look like a refusal is one of its numbers. -/
theorem marked_unauthorized_tooOld (asked current : Nat) :
    marked (tooOld asked current) unauthorizedMarks =
      (spellsRefusal asked || spellsRefusal current) := by
  have hcode : ∀ code ∈ ["401", "403"], Text.contains (tooOld asked current) code =
      (Text.contains (Text.natText asked) code || Text.contains (Text.natText current) code) := by
    intro code hmem
    simp only [List.mem_cons, List.not_mem_nil, or_false] at hmem
    rcases hmem with rfl | rfl <;>
      exact contains_tooOld (by decide) (by decide) (by decide) (by decide) asked current
  have hword : ∀ word ∈ ["Unauthorized", "Forbidden"],
      Text.contains (tooOld asked current) word = false := by
    intro word hmem
    simp only [List.mem_cons, List.not_mem_nil, or_false] at hmem
    rcases hmem with rfl | rfl
    · rw [contains_tooOld (by decide) (by decide) (by decide) (by decide),
        contains_natText_of_not_digit (c := 'U') (by decide) (by decide),
        contains_natText_of_not_digit (c := 'U') (by decide) (by decide), Bool.or_false]
    · rw [contains_tooOld (by decide) (by decide) (by decide) (by decide),
        contains_natText_of_not_digit (c := 'F') (by decide) (by decide),
        contains_natText_of_not_digit (c := 'F') (by decide) (by decide), Bool.or_false]
  simp only [marked, unauthorizedMarks, spellsRefusal, List.any_cons, List.any_nil, Bool.or_false,
    hcode "401" (by decide), hcode "403" (by decide), hword "Unauthorized" (by decide),
    hword "Forbidden" (by decide)]
  ac_rfl

/-- A message about an old version is taken for one, unless one of its numbers spells the code of a
refusal. -/
theorem ofMessage_tooOld (asked current : Nat) :
    ofMessage (tooOld asked current) =
      if spellsRefusal asked || spellsRefusal current then unauthorized else expired := by
  have hmark : Text.contains (tooOld asked current) "too old resource version" = true := by
    rw [Text.contains_iff]
    have hwords : "too old resource version".toList <:+: "too old resource version:".toList :=
      Text.contains_iff.mp (by decide)
    rw [tooOld_eq, toList_bracketed]
    exact hwords.trans (List.prefix_append _ _).isInfix
  have hexpired : marked (tooOld asked current) expiredMarks = true :=
    List.any_eq_true.mpr ⟨_, by decide, hmark⟩
  rw [ofMessage, marked_unauthorized_tooOld, hexpired, if_pos rfl]

end WatchErrorKind

namespace WatchError

@[simp]
theorem recordedKind_api (m : String) :
    (api m).recordedKind = WatchErrorKind.ofMessage m :=
  @WatchErrorKind.ofMessage_headed "api error" (by decide) m

@[simp]
theorem recordedKind_stream (m : String) :
    (stream m).recordedKind = WatchErrorKind.ofMessage m :=
  @WatchErrorKind.ofMessage_headed "watch stream error" (by decide) m

end WatchError
end ProvisionWatch

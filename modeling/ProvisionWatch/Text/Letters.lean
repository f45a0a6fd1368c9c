/-!
# ASCII letter case

Status words and event types are compared without regard to the case of ASCII
letters.  Letters outside ASCII keep their identity: no other case mapping is
applied.

Main results:

- Theorem `sameLetters_iff`: two texts are the same up to letter case exactly
  when their lowered forms are equal.
-/

namespace ProvisionWatch
namespace Text

/-- The text with every ASCII capital replaced by its small letter. -/
def lowered (s : String) : String :=
  String.ofList (s.toList.map Char.toLower)

/-- Equality up to the case of ASCII letters. -/
def sameLetters (a b : String) : Bool :=
  a.toList.map Char.toLower == b.toList.map Char.toLower

/-- Texts are the same up to case exactly when they are the same in small letters. -/
@[grind =]
theorem sameLetters_iff (a b : String) :
    sameLetters a b = true ↔ lowered a = lowered b := by
  simp [sameLetters, lowered, String.ofList_inj]

/-- A text is the same as itself. -/
@[simp]
theorem sameLetters_refl (a : String) : sameLetters a a = true := by
  simp [sameLetters]

/-- It makes no difference which text is compared with which. -/
theorem sameLetters_comm (a b : String) : sameLetters a b = sameLetters b a := by
  simp [sameLetters, Bool.beq_comm]

end Text
end ProvisionWatch

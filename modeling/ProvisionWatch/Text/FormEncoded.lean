import ProvisionWatch.Text.Hexadecimal

/-!
# Form encoding

Text as it stands in the query of an address: letters, digits and four marks
stand for themselves, a blank becomes a plus sign, and every other byte of the
text in UTF-8 is written as a percent sign and two digits.

Main results:

- Theorem `of_mem_formEncoded`: what holds of the characters of every encoded byte holds of those of
  encoded text.
- Theorem `plain_of_mem_formEncoded`: encoded text is made of letters, digits and six marks.
-/

namespace ProvisionWatch
namespace Text

/-- Whether a byte stands for itself. -/
def isFormPlain (b : UInt8) : Bool :=
  (48 ≤ b && b ≤ 57) || (65 ≤ b && b ≤ 90) || (97 ≤ b && b ≤ 122) ||
    b == 42 || b == 45 || b == 46 || b == 95

/-- A byte as it is encoded. -/
def formEncodeByte (b : UInt8) : List Char :=
  if isFormPlain b then [Char.ofNat b.toNat]
  else if b = 32 then ['+']
  else ['%', capitalHexDigit (b.toNat / 16), capitalHexDigit (b.toNat % 16)]

/-- A text as it is encoded. -/
def formEncoded (s : String) : String :=
  String.ofList ((s.toList.flatMap String.utf8EncodeChar).flatMap formEncodeByte)

/-- The marks in encoded text. -/
def formMarks : List Char := ['*', '-', '.', '_', '+', '%']

/-- What holds of the characters of every encoded byte holds of those of encoded text. -/
theorem of_mem_formEncoded {p : Char → Bool}
    (hbytes : ((List.range 256).all fun n => (formEncodeByte (UInt8.ofNat n)).all p) = true)
    {s : String} {c : Char} (h : c ∈ (formEncoded s).toList) : p c = true := by
  rw [formEncoded, String.toList_ofList, List.mem_flatMap] at h
  obtain ⟨b, -, hc⟩ := h
  have hbyte := List.all_eq_true.mp hbytes b.toNat (List.mem_range.mpr b.toNat_lt)
  rw [UInt8.ofNat_toNat] at hbyte
  exact List.all_eq_true.mp hbyte c hc

/-- Encoded text is made of letters, digits and six marks, whatever was encoded. -/
theorem plain_of_mem_formEncoded {s : String} {c : Char} (h : c ∈ (formEncoded s).toList) :
    c.isAlphanum = true ∨ c ∈ formMarks := by
  have hplain : (c.isAlphanum || formMarks.contains c) = true :=
    of_mem_formEncoded (p := fun c => c.isAlphanum || formMarks.contains c) (by decide +kernel) h
  simpa using hplain

example : formEncoded "a b/c" = "a+b%2Fc" := by
  decide +kernel

end Text
end ProvisionWatch

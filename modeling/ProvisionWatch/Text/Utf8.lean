import ProvisionWatch.Unicode.CharSet

/-!
# Characters as bytes

A character is written with one to four bytes.  A stretch of characters is
written as rows of stretches of bytes: a row stands for every way to take one
byte from each of its stretches.

Main results:

- Theorem `bytes_toNat`: the bytes of a character are those of its encoding in UTF-8.
-/

namespace ProvisionWatch
namespace Text

/-- The bytes with which a character is written. -/
def bytes (n : Nat) : List Nat :=
  if n < 128 then [n]
  else if n < 2048 then [192 + n / 64, 128 + n % 64]
  else if n < 65536 then [224 + n / 4096, 128 + n / 64 % 64, 128 + n % 64]
  else [240 + n / 262144, 128 + n / 4096 % 64, 128 + n / 64 % 64, 128 + n % 64]

/-- How many bytes a text takes. -/
def byteCount (cs : List Char) : Nat :=
  cs.foldl (fun n c => n + (bytes c.toNat).length) 0

/-- Where a stretch must be cut so that its bytes can be taken one from each stretch: behind the
given number.  `size` is how many characters share their first bytes. -/
def cutWithin (first last size : Nat) : Option Nat :=
  if first / size = last / size then none
  else if first % size ≠ 0 then some (first / size * size + (size - 1))
  else if last % size ≠ size - 1 then some (last / size * size - 1)
  else none

/-- Where a stretch must be cut, if it must: below the surrogates, where characters take more
bytes, and where only some of the characters share their first bytes. -/
def cutBehind? (first last : Nat) : Option Nat :=
  if first < CharSet.aboveSurrogates ∧ CharSet.belowSurrogates < last then
    some CharSet.belowSurrogates
  else
    match [127, 2047, 65535].find? fun n => first ≤ n && n < last with
    | some n => some n
    | none =>
        if last < 128 then none
        else [64, 4096, 262144].findSome? (cutWithin first last)

/-- The rows of stretches of bytes with which the characters of a stretch are written, in order.
`fuel` bounds how often a stretch is cut. -/
def byteRowsWithin (fuel first last : Nat) : List (List Stretch) :=
  match fuel with
  | 0 => []
  | fuel + 1 =>
      if last < first then []
      else
        match cutBehind? first last with
        | some n =>
            let start := if n = CharSet.belowSurrogates then CharSet.aboveSurrogates else n + 1
            byteRowsWithin fuel first n ++ byteRowsWithin fuel start last
        | none => [(bytes first).zipWith (fun a b => { first := a, last := b }) (bytes last)]

/-- The rows of stretches of bytes with which the characters of a stretch are written.  No stretch
is cut more than twice for each of the places where its bytes can differ. -/
def byteRows (s : Stretch) : List (List Stretch) :=
  byteRowsWithin 32 s.first s.last

/-- The bytes of a character are those of its encoding in UTF-8. -/
theorem bytes_toNat (c : Char) : bytes c.toNat = (String.utf8EncodeChar c).map UInt8.toNat := by
  have hlt : c.toNat < 1114112 := by
    obtain h | h := c.valid
    · exact Nat.lt_trans h (by decide)
    · exact h.2
  simp only [bytes, String.utf8EncodeChar, show c.val.toNat = c.toNat from rfl,
    ← Nat.lt_succ_iff, Nat.reduceSucc]
  generalize c.toNat = n at hlt
  -- One case for each number of bytes; a character of four has no number beyond the last.
  by_cases h1 : n < 128
  · simp only [if_pos h1, List.map_cons, List.map_nil, UInt8.toNat_ofNat', List.cons.injEq,
      and_true]
    omega
  · by_cases h2 : n < 2048
    · simp only [if_neg h1, if_pos h2, List.map_cons, List.map_nil, UInt8.toNat_ofNat',
        List.cons.injEq, and_true]
      omega
    · by_cases h3 : n < 65536
      · simp only [if_neg h1, if_neg h2, if_pos h3, List.map_cons, List.map_nil,
          UInt8.toNat_ofNat', List.cons.injEq, and_true]
        omega
      · simp only [if_neg h1, if_neg h2, if_neg h3, List.map_cons, List.map_nil,
          UInt8.toNat_ofNat', List.cons.injEq, and_true]
        omega

end Text
end ProvisionWatch

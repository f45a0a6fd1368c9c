import ProvisionWatch.Unicode.Property

/-!
# Patterns

A pattern describes stretches of a text.  What it describes is a relation
between the places where a stretch can begin and end; a pattern occurs in a
text when it describes any stretch of it at all.

The stretches are also computed: from a list of places where a pattern may
begin, the list of places where it may end.  Repetitions are followed place by
place, so no text is looked at twice for the same place.

Main results:

- Theorem `mem_ends_alt`: an alternative ends where one of its branches does.
-/

namespace ProvisionWatch
namespace Pattern

/-! ## Assertions -/

/-- What can be asserted of a place in a text.  Assertions about words know all letters, or ASCII
only. -/
inductive Look where
  | textStart
  | textEnd
  | lineStart
  | lineEnd
  /-- Lines that may also end with a carriage return. -/
  | looseLineStart
  | looseLineEnd
  | boundary (asciiOnly : Bool)
  | noBoundary (asciiOnly : Bool)
  | wordStart (asciiOnly : Bool)
  | wordEnd (asciiOnly : Bool)
  | wordStartHalf (asciiOnly : Bool)
  | wordEndHalf (asciiOnly : Bool)
deriving DecidableEq, Repr

/-- The ASCII characters of words. -/
def asciiWord : CharSet :=
  .ofTable "30-39 41-5A 5F 61-7A"

/-- Whether there is a character, and it is one of words. -/
def isWordChar (asciiOnly : Bool) (c : Option Char) : Bool :=
  c.any (if asciiOnly then asciiWord else Unicode.wordChars).mem

/-- The character before a place. -/
def charBefore (text : Array Char) : Nat → Option Char
  | 0 => none
  | i + 1 => text[i]?

/-- Whether an assertion holds at a place of a text. -/
def Look.holds (text : Array Char) (i : Nat) : Look → Bool
  | textStart => i == 0
  | textEnd => i == text.size
  | lineStart => i == 0 || charBefore text i == some '\n'
  | lineEnd => i == text.size || text[i]? == some '\n'
  | looseLineStart =>
      i == 0 || charBefore text i == some '\n' ||
        (charBefore text i == some '\r' && text[i]? != some '\n')
  | looseLineEnd =>
      i == text.size || text[i]? == some '\r' ||
        (text[i]? == some '\n' && charBefore text i != some '\r')
  | boundary ascii => isWordChar ascii (charBefore text i) != isWordChar ascii text[i]?
  | noBoundary ascii => isWordChar ascii (charBefore text i) == isWordChar ascii text[i]?
  | wordStart ascii => !isWordChar ascii (charBefore text i) && isWordChar ascii text[i]?
  | wordEnd ascii => isWordChar ascii (charBefore text i) && !isWordChar ascii text[i]?
  | wordStartHalf ascii => !isWordChar ascii (charBefore text i)
  | wordEndHalf ascii => !isWordChar ascii text[i]?

end Pattern

/-! ## Patterns -/

/-- A pattern. -/
inductive Pattern where
  | empty
  | literal (chars : List Char)
  | one (chars : CharSet)
  | look (assertion : Pattern.Look)
  /-- A group that is remembered by its number. -/
  | group (number : Nat) (p : Pattern)
  | seq (a b : Pattern)
  | alt (a b : Pattern)
  /-- At least so many times, and at most so many if there is a bound; as often as possible if
  `greedy`, which makes no difference to what is described. -/
  | many (p : Pattern) (least : Nat) (most : Option Nat) (greedy : Bool)
deriving DecidableEq, Repr

namespace Pattern

/-- A relation repeated so many times. -/
inductive Times (r : Nat → Nat → Prop) : Nat → Nat → Nat → Prop where
  | zero (i : Nat) : Times r 0 i i
  | succ {n i j k : Nat} (first : r i j) (rest : Times r n j k) : Times r (n + 1) i k

/-- The text reads so between two places. -/
def Reads (text : Array Char) : List Char → Nat → Nat → Prop
  | [], i, j => i = j
  | c :: cs, i, j => text[i]? = some c ∧ Reads text cs (i + 1) j

/-- The pattern describes the stretch of the text between two places. -/
def Spans (text : Array Char) : Pattern → Nat → Nat → Prop
  | empty, i, j => i = j
  | literal chars, i, j => Reads text chars i j
  | one chars, i, j => (∃ c, text[i]? = some c ∧ chars.mem c = true) ∧ j = i + 1
  | look assertion, i, j => assertion.holds text i = true ∧ i = j
  | group _ p, i, j => Spans text p i j
  | seq a b, i, k => ∃ j, Spans text a i j ∧ Spans text b j k
  | alt a b, i, j => Spans text a i j ∨ Spans text b i j
  | many p least most _, i, j =>
      ∃ n, least ≤ n ∧ (∀ m ∈ most, n ≤ m) ∧ Times (Spans text p) n i j

/-- The pattern describes the whole text. -/
def Describes (p : Pattern) (text : String) : Prop :=
  Spans text.toList.toArray p 0 text.length

/-! ## Finding stretches -/

/-- The places of two lists, without those of the second that are in the first. -/
def join (a b : List Nat) : List Nat :=
  a ++ b.filter fun i => !a.contains i

/-- Take a step so many times. -/
def steps (step : List Nat → List Nat) : Nat → List Nat → List Nat
  | 0, places => places
  | n + 1, places => if places.isEmpty then [] else steps step n (step places)

/-- All places reached within so many steps; `seen` are those reached so far, and `front` the ones
reached last. -/
def reach (step : List Nat → List Nat) : Nat → List Nat → List Nat → List Nat
  | 0, seen, _ => seen
  | n + 1, seen, front =>
      let new := (step front).filter fun i => !seen.contains i
      if new.isEmpty then seen else reach step n (seen ++ new) new

/-- The places behind a character that passes a test. -/
def behind (text : Array Char) (test : Char → Bool) (starts : List Nat) : List Nat :=
  starts.filterMap fun i => if (text[i]?).any test then some (i + 1) else none

/-- The places where the pattern may end when it begins at one of the given places. -/
def ends (text : Array Char) : Pattern → List Nat → List Nat
  | empty, starts => starts
  | literal chars, starts =>
      chars.foldl (fun places c => behind text (fun d => d == c) places) starts
  | one chars, starts => behind text chars.mem starts
  | look assertion, starts => starts.filter fun i => assertion.holds text i
  | group _ p, starts => ends text p starts
  | seq a b, starts => ends text b (ends text a starts)
  | alt a b, starts => join (ends text a starts) (ends text b starts)
  | many p least most _, starts =>
      let first := steps (ends text p) least starts
      let more := match most with
        | some most => most - least
        | none => text.size + 1
      reach (ends text p) more first first

/-- Whether the pattern occurs anywhere in a text. -/
def occursIn (p : Pattern) (text : String) : Bool :=
  let chars := text.toList.toArray
  !(ends chars p (List.range (chars.size + 1))).isEmpty

/-- Places are joined without any of them getting lost. -/
@[simp, grind =]
theorem mem_join (a b : List Nat) (i : Nat) : i ∈ join a b ↔ i ∈ a ∨ i ∈ b := by
  simp only [join, List.mem_append, List.mem_filter]
  by_cases h : i ∈ a <;> simp [h]

/-- A step goes behind the characters that pass a test. -/
@[simp, grind =]
theorem mem_behind (text : Array Char) (test : Char → Bool) (starts : List Nat) (j : Nat) :
    j ∈ behind text test starts ↔
      ∃ i ∈ starts, (∃ c, text[i]? = some c ∧ test c = true) ∧ j = i + 1 := by
  simp only [behind, List.mem_filterMap]
  constructor
  · rintro ⟨i, hi, h⟩
    cases hc : text[i]? with
    | none => simp [hc] at h
    | some c =>
        simp only [hc, Option.any_some, Option.ite_none_right_eq_some, Option.some.injEq] at h
        exact ⟨i, hi, ⟨c, hc, h.1⟩, h.2.symm⟩
  · rintro ⟨i, hi, ⟨c, hc, hm⟩, rfl⟩
    exact ⟨i, hi, by simp [hc, hm]⟩

/-- An alternative ends where one of its branches does. -/
@[simp, grind =]
theorem mem_ends_alt (text : Array Char) (a b : Pattern) (starts : List Nat) (j : Nat) :
    j ∈ ends text (alt a b) starts ↔ j ∈ ends text a starts ∨ j ∈ ends text b starts :=
  mem_join _ _ _

end Pattern
end ProvisionWatch

import ProvisionWatch.Pattern.Flags
import ProvisionWatch.Text.Blank
import ProvisionWatch.Text.Decimal

/-!
# What stands behind a backslash

Behind a backslash stands a character that has a meaning of its own, a
character by its number, a class by a letter or by a property, or an assertion.
Where the flags say so, blanks and comments between the parts are skipped.

Main results:

- Theorem `skip_of_not_spaced`: nothing is skipped where blanks count.
-/

namespace ProvisionWatch
namespace Pattern

/-! ## Blanks and comments -/

/-- Skip blanks and comments; `fuel` bounds the number of comments. -/
def skipSpaced (fuel : Nat) (cs : List Char) : List Char :=
  match fuel, cs.dropWhile Text.isBlank with
  | 0, cs => cs
  | fuel + 1, '#' :: rest => skipSpaced fuel (rest.dropWhile fun c => c != '\n')
  | _, cs => cs

namespace Flags

/-- Skip blanks and comments if the flags say so. -/
def skip (f : Flags) (cs : List Char) : List Char :=
  if f.spaced then skipSpaced cs.length cs else cs

/-- What a character is followed by, given what stands behind it.  Blanks are passed over if the
flags say so; of a comment the first character counts, and what is all blank counts itself. -/
def following (f : Flags) (rest : List Char) : Option Char :=
  if !f.spaced then rest.head?
  else
    match rest.dropWhile Text.isBlank with
    | '#' :: comment => (comment.dropWhile Text.isBlank).head? <|> rest.head?
    | c :: _ => some c
    | [] => rest.head?

/-- Nothing is skipped where blanks count. -/
theorem skip_of_not_spaced (f : Flags) (cs : List Char) (h : f.spaced = false) :
    f.skip cs = cs := by
  simp [skip, h]

/-- What stands up to a closing brace, without what is skipped; `fuel` bounds its length. -/
def readBraced (f : Flags) (fuel : Nat) (cs : List Char) : Option (List Char × List Char) :=
  match fuel, f.skip cs with
  | 0, _ => none
  | _, [] => none
  | fuel + 1, c :: rest =>
      if c = '\x7d' then some ([], rest)
      else (readBraced f fuel rest).map fun (inside, rest) => (c :: inside, rest)

/-- The characters that pass a test, without what is skipped behind them; `fuel` bounds their
number. -/
def readWhile (f : Flags) (test : Char → Bool) (fuel : Nat) (cs : List Char) :
    List Char × List Char :=
  match fuel, cs with
  | fuel + 1, c :: rest =>
      if test c then
        let (more, rest) := readWhile f test fuel (f.skip rest)
        (c :: more, rest)
      else
        ([], c :: rest)
  | _, cs => ([], cs)

end Flags

/-! ## What is escaped -/

/-- What stands behind a backslash, or for itself. -/
inductive Escaped where
  | char (n : Nat)
  | chars (s : CharSet)
  | look (l : Look)
deriving DecidableEq, Repr

/-- Exactly so many digits to base sixteen. -/
def readHexDigits (f : Flags) (value : Nat) : Nat → List Char → Option (Nat × List Char)
  | 0, cs => some (value, cs)
  | n + 1, cs =>
      match f.skip cs with
      | c :: rest => do readHexDigits f (value * 16 + (← Text.hexDigitValue? c)) n rest
      | [] => none

/-- The number of a character between braces. -/
def readHexBraced (f : Flags) (cs : List Char) : Option (Nat × List Char) := do
  let (inside, rest) ← f.readBraced (cs.length + 1) cs
  if inside.isEmpty then none
  else
    let digits ← inside.mapM Text.hexDigitValue?
    return (digits.foldl (fun n d => n * 16 + d) 0, rest)

/-- A character given by its number, with so many digits or between braces.  Without Unicode a
number of two digits is a byte, and must be one of ASCII. -/
def readHex (f : Flags) (digits : Nat) (cs : List Char) : Option (Escaped × List Char) := do
  let cs := f.skip cs
  let braced := cs.head? == some '\x7b'
  let (n, rest) ← if braced then readHexBraced f cs.tail else readHexDigits f 0 digits cs
  if !n.isValidChar then none
  else if !f.unicode && !braced && digits = 2 && 128 ≤ n then none
  else return (.char n, rest)

/-- A class named by a property: by one letter, or between braces. -/
def readProperty (f : Flags) (negated : Bool) (cs : List Char) : Option (Escaped × List Char) := do
  let (name, rest) ← match f.skip cs with
    | '\x7b' :: rest => f.readBraced (rest.length + 1) rest
    | '\\' :: _ | [] => none
    | c :: rest => some ([c], rest)
  let s ← f.propertyClass negated name
  return (.chars s, rest)

/-- The assertion about words that is named in braces, behind the opening one, if a name stands
there at all. -/
def readWordLook (f : Flags) (cs : List Char) : Option (Option Look × List Char) :=
  let isNameChar (c : Char) : Bool := c.isAlpha || c == '-'
  let cs := f.skip cs
  if cs.isEmpty then none
  else if !(cs.head?).any isNameChar then some (none, cs)
  else
    let (name, rest) := f.readWhile isNameChar cs.length cs
    match rest with
    | '\x7d' :: rest =>
        match String.ofList name with
        | "start" => some (some (.wordStart !f.unicode), rest)
        | "end" => some (some (.wordEnd !f.unicode), rest)
        | "start-half" => some (some (.wordStartHalf !f.unicode), rest)
        | "end-half" => some (some (.wordEndHalf !f.unicode), rest)
        | _ => none
    | _ => none

/-- Read what stands behind a backslash. -/
def readEscape (f : Flags) : List Char → Option (Escaped × List Char)
  | [] => none
  | c :: rest =>
      match c with
      | 'x' => readHex f 2 rest
      | 'u' => readHex f 4 rest
      | 'U' => readHex f 8 rest
      | 'a' => some (.char 7, rest)
      | 'f' => some (.char 12, rest)
      | 't' => some (.char 9, rest)
      | 'n' => some (.char 10, rest)
      | 'r' => some (.char 13, rest)
      | 'v' => some (.char 11, rest)
      | 'p' => readProperty f false rest
      | 'P' => readProperty f true rest
      | 'A' => some (.look .textStart, rest)
      | 'z' => some (.look .textEnd, rest)
      | 'B' => some (.look (.noBoundary !f.unicode), rest)
      | '<' => some (.look (.wordStart !f.unicode), rest)
      | '>' => some (.look (.wordEnd !f.unicode), rest)
      | 'b' =>
          match rest with
          | '\x7b' :: name =>
              match readWordLook f name with
              | some (some l, rest) => some (.look l, rest)
              | some (none, _) => some (.look (.boundary !f.unicode), rest)
              | none => none
          | _ => some (.look (.boundary !f.unicode), rest)
      | c =>
          if c ∈ ['d', 'D', 's', 'S', 'w', 'W'] then
            (f.letterClass c).map fun s => (.chars s, rest)
          else if c.isAlphanum || 128 ≤ c.toNat then
            none
          else
            some (.char c.toNat, rest)

end Pattern
end ProvisionWatch

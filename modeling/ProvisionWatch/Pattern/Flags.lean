import ProvisionWatch.Pattern.Simplify
import ProvisionWatch.Unicode.CaseFolding
import ProvisionWatch.Unicode.Named

/-!
# Flags of patterns

Flags say how the parts of a written pattern are meant: whether case counts,
what a dot and the ends of lines are, whether letters are all letters or those
of ASCII, and whether blanks in the pattern count.

Without Unicode nothing may describe a part of a character, so a class is a set
of ASCII characters, and complements of classes are refused.
-/

namespace ProvisionWatch
namespace Pattern

/-- The flags in force at some place of a pattern. -/
structure Flags where
  anyCase : Bool
  manyLines : Bool
  dotMatchesLineEnd : Bool
  looseLineEnds : Bool
  /-- Repetitions are as short as possible, unless they are marked. -/
  reluctant : Bool
  /-- Off when classes and cases know ASCII only. -/
  unicode : Bool
  /-- Blanks and comments in the pattern are skipped. -/
  spaced : Bool
deriving DecidableEq, Repr

namespace Flags

/-- The flags in force at the start. -/
def standard : Flags :=
  { anyCase := false, manyLines := false, dotMatchesLineEnd := false, looseLineEnds := false,
    reluctant := false, unicode := true, spaced := false }

/-- Turn a flag on or off. -/
def set (f : Flags) (on : Bool) : Char → Option Flags
  | 'i' => some { f with anyCase := on }
  | 'm' => some { f with manyLines := on }
  | 's' => some { f with dotMatchesLineEnd := on }
  | 'R' => some { f with looseLineEnds := on }
  | 'U' => some { f with reluctant := on }
  | 'u' => some { f with unicode := on }
  | 'x' => some { f with spaced := on }
  | _ => none

/-- Read flags up to a colon or a closing parenthesis, which stays in front of the rest.  The
letters read so far are given, the last in front, and whether a minus sign was among them. -/
def read (f : Flags) (seen : List Char) (minus : Bool) :
    List Char → Option (Flags × List Char × List Char)
  | [] => none
  | c :: rest =>
      if c = ':' ∨ c = ')' then
        if seen.head? = some '-' then none else some (f, seen, c :: rest)
      else if c = '-' then
        if minus then none else read f ('-' :: seen) true rest
      else if seen.contains c then
        none
      else
        match f.set (!minus) c with
        | some f => read f (c :: seen) minus rest
        | none => none

/-! ## What is meant -/

/-- A set closed under case, if case does not count. -/
def fold (f : Flags) (s : CharSet) : CharSet :=
  if !f.anyCase then s
  else if f.unicode then Unicode.closeCase s
  else Unicode.closeAsciiCase s

/-- A set or its complement. -/
def choose (f : Flags) (negated : Bool) (s : CharSet) : Option CharSet :=
  if !negated then some s
  else if f.unicode then some s.complement
  else none

/-- The pattern of one character. -/
def char (f : Flags) (n : Nat) : Pattern :=
  ofChars (f.fold (.single n))

/-- What a dot stands for. -/
def dot (f : Flags) : Option Pattern :=
  if !f.unicode then none
  else if f.dotMatchesLineEnd then some (ofChars .all)
  else if f.looseLineEnds then some (ofChars (CharSet.ofNumbers [10, 13]).complement)
  else some (ofChars (CharSet.single 10).complement)

/-- What a circumflex asserts. -/
def circumflex (f : Flags) : Look :=
  if !f.manyLines then .textStart
  else if f.looseLineEnds then .looseLineStart
  else .lineStart

/-- What a dollar sign asserts. -/
def dollar (f : Flags) : Look :=
  if !f.manyLines then .textEnd
  else if f.looseLineEnds then .looseLineEnd
  else .lineEnd

/-! ## Named classes -/

/-- The classes that can be named between colons. -/
def ofName? : String → Option CharSet
  | "alnum" => some (.ofTable "30-39 41-5A 61-7A")
  | "alpha" => some (.ofTable "41-5A 61-7A")
  | "ascii" => some (.ofTable "0-7F")
  | "blank" => some (.ofTable "9 20")
  | "cntrl" => some (.ofTable "0-1F 7F")
  | "digit" => some (.ofTable "30-39")
  | "graph" => some (.ofTable "21-7E")
  | "lower" => some (.ofTable "61-7A")
  | "print" => some (.ofTable "20-7E")
  | "punct" => some (.ofTable "21-2F 3A-40 5B-60 7B-7E")
  | "space" => some (.ofTable "9-D 20")
  | "upper" => some (.ofTable "41-5A")
  | "word" => some asciiWord
  | "xdigit" => some (.ofTable "30-39 41-46 61-66")
  | _ => none

/-- The class between colons with a name. -/
def namedClass (f : Flags) (negated : Bool) (name : List Char) : Option CharSet := do
  let s ← ofName? (String.ofList name)
  f.choose negated (f.fold s)

/-- The class of a letter: digits, blanks or characters of words, and with a capital letter all
other characters. -/
def letterClass (f : Flags) (c : Char) : Option CharSet :=
  let s := match c.toLower with
    | 'd' => if f.unicode then Unicode.digits else .ofTable "30-39"
    | 's' => if f.unicode then Unicode.whiteSpace else .ofTable "9-D 20"
    | _ => if f.unicode then Unicode.wordChars else asciiWord
  f.choose c.isUpper s

/-- The class that is asked for by a name, or by a kind of property and a value behind an equals
sign or a colon, or behind an unequals sign for all other values. -/
def propertyClass (f : Flags) (negated : Bool) (name : List Char) : Option CharSet := do
  let plain := Unicode.plainName
  let (flipped, s) ← match Text.cutAt ['!', '='] name with
    | some (kind, value) => (Unicode.ofValue? (plain kind) (plain value)).map fun s => (true, s)
    | none =>
        match Text.cut ':' name <|> Text.cut '=' name with
        | some (kind, value) =>
            (Unicode.ofValue? (plain kind) (plain value)).map fun s => (false, s)
        | none => (Unicode.ofName? (plain name)).map fun s => (false, s)
  if f.unicode then f.choose (negated != flipped) (f.fold s) else none

end Flags
end Pattern
end ProvisionWatch

import ProvisionWatch.Json.Basic
import ProvisionWatch.Text.Decimal
import ProvisionWatch.Text.Hexadecimal

/-!
# JSON text

A value is written on one line without spaces, or spread over lines with two
blanks per level.  Strings escape the quote, the backslash and the control
characters, and nothing else.

Main results:

- Theorem `escape_of_plain`: every other character stands for itself.
-/

namespace ProvisionWatch
namespace Json

/-! ## Strings -/

/-- The written form of one character of a string. -/
def escape (c : Char) : List Char :=
  if c = '"' then ['\\', '"']
  else if c = '\\' then ['\\', '\\']
  else if c = '\n' then ['\\', 'n']
  else if c = '\r' then ['\\', 'r']
  else if c = '\t' then ['\\', 't']
  else if c = '\x08' then ['\\', 'b']
  else if c = '\x0c' then ['\\', 'f']
  else if c.toNat < 32 then
    ['\\', 'u', '0', '0', Text.hexDigit (c.toNat / 16), Text.hexDigit (c.toNat % 16)]
  else [c]

/-- A string between quotes. -/
def quoted (s : String) : List Char :=
  '"' :: s.toList.flatMap escape ++ ['"']

/-- Every character but the quote, the backslash and the control characters stands for itself. -/
theorem escape_of_plain (c : Char) (hq : c ≠ '"') (hb : c ≠ '\\') (hc : 32 ≤ c.toNat) :
    escape c = [c] := by
  have hne : ∀ d : Char, d.toNat < 32 → c ≠ d := by
    rintro d hd rfl
    omega
  simp [escape, hq, hb, hne '\n' (by decide), hne '\r' (by decide), hne '\t' (by decide),
    hne '\x08' (by decide), hne '\x0c' (by decide), Nat.not_lt.mpr hc]

/-! ## Numbers -/

/-- A decimal fraction.  Its point is written where it stands if that is at most sixteen digits
behind the first one or five places before it; else one digit stands before the point, and an
exponent with its sign says where the point belongs. -/
def realChars (negative : Bool) (digits : Nat) (exponent : Int) : List Char :=
  let ds := Text.digits digits
  let point : Int := ds.length + exponent
  let written : List Char :=
    if 0 ≤ exponent ∧ point ≤ 16 then
      ds ++ List.replicate exponent.toNat '0' ++ ['.', '0']
    else if 0 < point ∧ point ≤ 16 then
      ds.take point.toNat ++ '.' :: ds.drop point.toNat
    else if -5 < point ∧ point ≤ 0 then
      '0' :: '.' :: List.replicate point.natAbs '0' ++ ds
    else
      let head := ds.take 1
      let tail := ds.drop 1
      let mantissa := if tail.isEmpty then head else head ++ '.' :: tail
      let sign := if 0 < point then '+' else '-'
      mantissa ++ 'e' :: sign :: Text.digits (point - 1).natAbs
  if negative then '-' :: written else written

/-! ## One line -/

mutual

/-- A value on one line. -/
def compactChars : Json → List Char
  | .null => "null".toList
  | .bool b => (if b then "true" else "false").toList
  | .int n => (Text.intText n).toList
  | .real negative digits exponent => realChars negative digits exponent
  | .str s => quoted s
  | .arr [] => ['[', ']']
  | .arr (item :: rest) => '[' :: compactChars item ++ compactItems rest
  | .obj [] => ['\x7b', '\x7d']
  | .obj ((name, value) :: rest) =>
      '\x7b' :: quoted name ++ ':' :: compactChars value ++ compactMembers rest

/-- The items after the first, and the end of the list. -/
def compactItems : List Json → List Char
  | [] => [']']
  | item :: rest => ',' :: compactChars item ++ compactItems rest

/-- The members after the first, and the end of the object. -/
def compactMembers : List (String × Json) → List Char
  | [] => ['\x7d']
  | (name, value) :: rest =>
      ',' :: quoted name ++ ':' :: compactChars value ++ compactMembers rest

end

/-- The text of a value on one line. -/
def compact (v : Json) : String :=
  String.ofList (compactChars v)

/-! ## Several lines -/

/-- The start of a line at some depth. -/
def lineAt (depth : Nat) : List Char :=
  '\n' :: List.replicate (2 * depth) ' '

mutual

/-- A value over several lines, at some depth. -/
def prettyChars (depth : Nat) : Json → List Char
  | .null => "null".toList
  | .bool b => (if b then "true" else "false").toList
  | .int n => (Text.intText n).toList
  | .real negative digits exponent => realChars negative digits exponent
  | .str s => quoted s
  | .arr [] => ['[', ']']
  | .arr (item :: rest) =>
      '[' :: lineAt (depth + 1) ++ prettyChars (depth + 1) item ++ prettyItems depth rest
  | .obj [] => ['\x7b', '\x7d']
  | .obj ((name, value) :: rest) =>
      '\x7b' :: lineAt (depth + 1) ++ quoted name ++ ':' :: ' ' ::
        prettyChars (depth + 1) value ++ prettyMembers depth rest

/-- The items after the first, and the end of the list. -/
def prettyItems (depth : Nat) : List Json → List Char
  | [] => lineAt depth ++ [']']
  | item :: rest =>
      ',' :: lineAt (depth + 1) ++ prettyChars (depth + 1) item ++ prettyItems depth rest

/-- The members after the first, and the end of the object. -/
def prettyMembers (depth : Nat) : List (String × Json) → List Char
  | [] => lineAt depth ++ ['\x7d']
  | (name, value) :: rest =>
      ',' :: lineAt (depth + 1) ++ quoted name ++ ':' :: ' ' ::
        prettyChars (depth + 1) value ++ prettyMembers depth rest

end

/-- The text of a value over several lines. -/
def pretty (v : Json) : String :=
  String.ofList (prettyChars 0 v)

end Json
end ProvisionWatch

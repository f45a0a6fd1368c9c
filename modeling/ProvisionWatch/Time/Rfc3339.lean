import ProvisionWatch.Text.Blank
import ProvisionWatch.Text.Decimal
import ProvisionWatch.Text.Letters
import ProvisionWatch.Time.Instant

/-!
# Instants as text

Instants are written as RFC 3339 in universal time, with the fewest digits of
a fraction out of 0, 3, 6 or 9 that lose nothing.  Years outside of 0 to 9999
carry a sign.

There are two readers.  The strict one reads RFC 3339 alone.  The lenient one
also allows blanks between the parts, short numbers, signed years, the word
`UTC` and offsets without their colon.  Both drop digits after the ninth of a
fraction and read second 60 as a leap second.
-/

namespace ProvisionWatch
namespace Instant

/-! ## Writing -/

/-- Four digits of a year, or a sign and at least four digits. -/
def yearText (year : Int) : String :=
  if 0 ≤ year ∧ year ≤ 9999 then Text.paddedText 4 year.toNat
  else if year < 0 then "-" ++ Text.paddedText 4 year.natAbs
  else "+" ++ Text.paddedText 4 year.natAbs

/-- The fraction of a second after its point; nothing when it is zero. -/
def fractionText (nano : Nat) : String :=
  if nano = 0 then ""
  else if nano % 1000000 = 0 then "." ++ Text.paddedText 3 (nano / 1000000)
  else if nano % 1000 = 0 then "." ++ Text.paddedText 6 (nano / 1000)
  else "." ++ Text.paddedText 9 nano

/-- The instant as text. -/
def text (t : Instant) : String :=
  let day := t.date
  let clock := (t.second % 86400).toNat
  let second := clock % 60 + t.nano / 1000000000
  yearText day.year ++ "-" ++ Text.paddedText 2 day.month ++ "-" ++ Text.paddedText 2 day.day ++
    "T" ++ Text.paddedText 2 (clock / 3600) ++ ":" ++ Text.paddedText 2 (clock / 60 % 60) ++
    ":" ++ Text.paddedText 2 second ++ fractionText (t.nano % 1000000000) ++ "Z"

/-! ## What both readers share -/

/-- Why a text is no instant. -/
inductive Misreading where
  | tooShort
  | badCharacter
  | tooLong
  /-- A number is too great for its place, or there is no such day. -/
  | outOfRange
  /-- The universal time is beyond what can be represented. -/
  | impossible
deriving DecidableEq, Repr

/-- The reason in words. -/
def Misreading.words : Misreading → String
  | tooShort => "premature end of input"
  | badCharacter => "input contains invalid characters"
  | tooLong => "trailing input"
  | outOfRange => "input is out of range"
  | impossible => "no possible date and time matching input"

/-- The fields of a time as it is read. -/
structure Fields where
  year : Int
  month : Nat
  day : Nat
  hour : Nat
  minute : Nat
  second : Nat
  nano : Nat
  /-- Seconds that local time is ahead of universal time. -/
  offset : Int
deriving Repr

/-- The instant that the fields name, if there is one.  Both the local and the
universal time have to be in range. -/
def Fields.instant (f : Fields) : Except Misreading Instant :=
  let date : Date := ⟨f.year, f.month, f.day⟩
  if date.isValid ∧ f.hour ≤ 23 ∧ f.minute ≤ 59 ∧ f.second ≤ 60 ∧ f.offset.natAbs < 86400 then
    let leap := f.second = 60
    let second := if leap then 59 else f.second
    let nano := if leap then f.nano + 1000000000 else f.nano
    let here := date.dayNumber * 86400 + (f.hour * 3600 + f.minute * 60 + second : Nat)
    if firstSecond ≤ here ∧ here ≤ lastSecond then
      match of? (here - f.offset) nano with
      | some t => .ok t
      | none => .error .impossible
    else
      .error .outOfRange
  else
    .error .outOfRange

/-- At least `least` and at most `most` digits as a number, and the rest. -/
def number (least most : Nat) (cs : List Char) : Except Misreading (Nat × List Char) :=
  let ds := (cs.take most).takeWhile fun c => (Text.digitValue? c).isSome
  if ds.length < least then
    .error (if cs.length < least then .tooShort else .badCharacter)
  else
    match Text.ofDigits ds with
    | some n => .ok (n, cs.drop ds.length)
    | none => .error .badCharacter

/-- One of some characters. -/
def oneOf (allowed : List Char) : List Char → Except Misreading (List Char)
  | d :: rest => if allowed.contains d then .ok rest else .error .badCharacter
  | [] => .error .tooShort

/-- One given character, and the rest. -/
def literal (c : Char) : List Char → Except Misreading (List Char) :=
  oneOf [c]

/-- The separator between date and time. -/
def separator : List Char → Except Misreading (List Char) :=
  oneOf ['T', 't', ' ']

/-- A fraction, when a point stands in front; it is read to nine digits. -/
def fraction : List Char → Except Misreading (Nat × List Char)
  | '.' :: rest =>
      let ds := rest.takeWhile fun c => (Text.digitValue? c).isSome
      if ds.isEmpty then
        .error (if rest.isEmpty then .tooShort else .badCharacter)
      else
        match Text.ofDigits ((ds.take 9).rightpad 9 '0') with
        | some nano => .ok (nano, rest.drop ds.length)
        | none => .error .badCharacter
  | cs => .ok (0, cs)

/-- Exactly two digits.  What is too short for them is less than two bytes long. -/
def twoDigits : List Char → Except Misreading (Nat × List Char)
  | a :: b :: rest =>
      match Text.digitValue? a, Text.digitValue? b with
      | some a, some b => .ok (a * 10 + b, rest)
      | _, _ => .error .badCharacter
  | [a] => .error (if a.toNat < 128 then .tooShort else .badCharacter)
  | [] => .error .tooShort

/-- The sign of an offset; the minus sign may be the typographic one. -/
def offsetSign : List Char → Except Misreading (Int × List Char)
  | '+' :: rest => .ok (1, rest)
  | '-' :: rest => .ok (-1, rest)
  | '\u2212' :: rest => .ok (-1, rest)
  | [] => .error .tooShort
  | _ => .error .badCharacter

/-- An offset from universal time, given what may stand between its hours and minutes. -/
def offset (between : List Char → Except Misreading (List Char)) :
    List Char → Except Misreading (Int × List Char)
  | 'Z' :: rest => .ok (0, rest)
  | 'z' :: rest => .ok (0, rest)
  | cs => do
      let (sign, cs) ← offsetSign cs
      let (hours, cs) ← twoDigits cs
      let cs ← between cs
      let (minutes, cs) ← twoDigits cs
      if minutes ≤ 59 then return (sign * (hours * 3600 + minutes * 60 : Nat), cs)
      else .error .outOfRange

/-! ## The strict reader -/

/-- Read RFC 3339. -/
def readStrictly (s : String) : Except Misreading Instant := do
  let (year, cs) ← number 4 4 s.toList
  let cs ← literal '-' cs
  let (month, cs) ← twoDigits cs
  let cs ← literal '-' cs
  let (day, cs) ← twoDigits cs
  let cs ← separator cs
  let (hour, cs) ← twoDigits cs
  let cs ← literal ':' cs
  let (minute, cs) ← twoDigits cs
  let cs ← literal ':' cs
  let (second, cs) ← twoDigits cs
  let (nano, cs) ← fraction cs
  let (offset, cs) ← offset (literal ':') cs
  if cs.isEmpty then
    Fields.instant ⟨year, month, day, hour, minute, second, nano, offset⟩
  else
    .error .tooLong

/-- The instant that a text names by RFC 3339. -/
def readStrict? (s : String) : Option Instant :=
  (readStrictly s).toOption

/-! ## The lenient reader -/

/-- A number within bounds, and the rest. -/
def within (least most : Int) (p : Except Misreading (Int × List Char)) :
    Except Misreading (Int × List Char) := do
  let (n, cs) ← p
  if least ≤ n ∧ n ≤ most then return (n, cs) else .error .outOfRange

/-- A year: up to four digits, or a sign and digits. -/
def looseYear (cs : List Char) : Except Misreading (Int × List Char) :=
  let year : Except Misreading (Int × List Char) := do
    match Text.trimStart cs with
    | '-' :: rest =>
        let (n, rest) ← number 1 (rest.length + 1) rest
        return (-(n : Int), rest)
    | '+' :: rest =>
        let (n, rest) ← number 1 (rest.length + 1) rest
        return ((n : Int), rest)
    | cs =>
        let (n, rest) ← number 1 4 cs
        return ((n : Int), rest)
  within (-2147483648) 2147483647 year

/-- One or two digits behind blanks, with a number within bounds. -/
def looseNumber (least most : Nat) (cs : List Char) : Except Misreading (Nat × List Char) := do
  let (n, rest) ← number 1 2 (Text.trimStart cs)
  if least ≤ n ∧ n ≤ most then return (n, rest) else .error .outOfRange

/-- One given character behind blanks. -/
def looseLiteral (c : Char) (cs : List Char) : Except Misreading (List Char) :=
  literal c (Text.trimStart cs)

/-- An offset, or the word `UTC` in any case. -/
def looseOffset (cs : List Char) : Except Misreading (Int × List Char) :=
  if Text.sameLetters (String.ofList (cs.take 3)) "utc" then
    .ok (0, cs.drop 3)
  else
    offset (fun cs => .ok (cs.dropWhile fun c => c == ':' || Text.isBlank c)) cs

/-- Read an instant as people write it. -/
def readLoosely (s : String) : Except Misreading Instant := do
  let (year, cs) ← looseYear s.toList
  let cs ← looseLiteral '-' cs
  let (month, cs) ← looseNumber 1 12 cs
  let cs ← looseLiteral '-' cs
  let (day, cs) ← looseNumber 1 31 cs
  let cs ← separator cs
  let (hour, cs) ← looseNumber 0 23 cs
  let cs ← looseLiteral ':' cs
  let (minute, cs) ← looseNumber 0 59 cs
  let cs ← looseLiteral ':' cs
  let (second, cs) ← looseNumber 0 60 cs
  let (nano, cs) ← fraction cs
  let (offset, cs) ← looseOffset (Text.trimStart cs)
  if (Text.trimStart cs).isEmpty then
    Fields.instant ⟨year, month, day, hour, minute, second, nano, offset⟩
  else
    .error .tooLong

/-- The instant that a text names as people write it. -/
def read? (s : String) : Option Instant :=
  (readLoosely s).toOption

end Instant
end ProvisionWatch

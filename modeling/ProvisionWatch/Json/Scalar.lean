import ProvisionWatch.Json.Cursor
import ProvisionWatch.Number.Shortest
import ProvisionWatch.Text.Hexadecimal

/-!
# Words, strings and numbers

Readings of the values that are no lists or objects.  Each has a twin that only
passes over the value.  The twins are more forgiving: they do not ask whether a
pair of escapes stands for a character and whether a number is too great.

A whole number of 64 bits is kept.  Every other number is one of double
precision; of its digits only those count that fit into 64 bits.
-/

namespace ProvisionWatch
namespace Json
namespace Reading

/-! ## Words -/

/-- Pass over letters that have to stand there. -/
def letters : List Char → Reading Unit
  | [] => return ()
  | c :: rest => do
      match ← peek with
      | none => failHere (.ended .value)
      | some d =>
          if d = c then
            advance
            letters rest
          else
            failAhead .noWord

/-- Read `null` behind its first letter. -/
def restOfNull : Reading Json := do
  letters ['u', 'l', 'l']
  return .null

/-- Read `true` behind its first letter. -/
def restOfTrue : Reading Json := do
  letters ['r', 'u', 'e']
  return .bool true

/-- Read `false` behind its first letter. -/
def restOfFalse : Reading Json := do
  letters ['a', 'l', 's', 'e']
  return .bool false

/-! ## Strings -/

/-- The number of four digits to base sixteen. -/
def fourDigits : List Char → Option Nat
  | [a, b, c, d] => do
      let a ← Text.hexDigitValue? a
      let b ← Text.hexDigitValue? b
      let c ← Text.hexDigitValue? c
      let d ← Text.hexDigitValue? d
      return ((a * 16 + b) * 16 + c) * 16 + d
  | _ => none

/-- Read four digits to base sixteen. -/
def unit : Reading Nat := do
  let four := (← get).rest.take 4
  match fourDigits four with
  | some n =>
      modify fun c => four.foldl (fun c _ => c.next) c
      return n
  | none =>
      if Text.byteCount four < 4 then failAfter 4 (.ended .string)
      else failAfter 4 .badEscape

/-- The character that two halves of a pair stand for. -/
def joinPair (high low : Nat) : Char :=
  Char.ofNat (65536 + (high - 55296) * 1024 + (low - 56320))

/-- Whether a number is the first half of a pair. -/
def isHighHalf (n : Nat) : Bool :=
  decide (55296 ≤ n ∧ n < 56320)

/-- Whether a number is the second half of a pair. -/
def isLowHalf (n : Nat) : Bool :=
  decide (56320 ≤ n ∧ n < 57344)

/-- One given character inside of an escape. -/
def pairMark (mark : Char) : Reading Unit := do
  match ← peek with
  | none => failHere (.ended .string)
  | some c => if c = mark then advance else failAhead .unfinishedPair

/-- Read a character by its number, behind the letter that starts it. -/
def numberedChar : Reading Char := do
  let high ← unit
  if isLowHalf high then
    failHere .loneSurrogate
  else if isHighHalf high then
    pairMark '\\'
    pairMark 'u'
    let low ← unit
    if isLowHalf low then return joinPair high low else failHere .loneSurrogate
  else
    return Char.ofNat high

/-- The character that a letter behind a backslash stands for. -/
def shortEscape? (c : Char) : Option Char :=
  match c with
  | '"' => some '"'
  | '\\' => some '\\'
  | '/' => some '/'
  | 'b' => some '\x08'
  | 'f' => some '\x0c'
  | 'n' => some '\n'
  | 'r' => some '\r'
  | 't' => some '\t'
  | _ => none

/-- Read an escape behind its backslash. -/
def escaped : Reading Char := do
  match ← peek with
  | none => failHere (.ended .string)
  | some c =>
      if c = 'u' then
        advance
        numberedChar
      else
        match shortEscape? c with
        | some d =>
            advance
            return d
        | none => failAhead .badEscape

/-- Read the characters of a string up to its closing quote; those read so far are given in
reverse. -/
def stringFrom (fuel : Nat) (done : List Char) : Reading String := do
  match fuel with
  | 0 => failHere (.ended .string)
  | fuel + 1 =>
      match ← peek with
      | none => failHere (.ended .string)
      | some c =>
          if c = '"' then
            advance
            return String.ofList done.reverse
          else if c = '\\' then
            advance
            let d ← escaped
            stringFrom fuel (d :: done)
          else if c.toNat < 32 then
            failAhead .controlCharacter
          else
            advance
            stringFrom fuel (c :: done)

/-- Read a string behind its opening quote. -/
def string : Reading String := do
  stringFrom ((← get).left + 1) []

/-- Pass over the characters of a string up to its closing quote. -/
def skipStringFrom (fuel : Nat) : Reading Unit := do
  match fuel with
  | 0 => failHere (.ended .string)
  | fuel + 1 =>
      match ← peek with
      | none => failHere (.ended .string)
      | some c =>
          if c = '"' then
            advance
          else if c = '\\' then
            advance
            match ← peek with
            | none => failHere (.ended .string)
            | some d =>
                if d = 'u' then
                  advance
                  let _ ← unit
                else if (shortEscape? d).isSome then
                  advance
                else
                  failAhead .badEscape
            skipStringFrom fuel
          else if c.toNat < 32 then
            failHere .controlCharacter
          else
            advance
            skipStringFrom fuel

/-- Pass over a string behind its opening quote. -/
def skipString : Reading Unit := do
  skipStringFrom ((← get).left + 1)

/-! ## Numbers -/

/-- Whether a character is a digit. -/
def isDigit (c : Char) : Bool :=
  (Text.digitValue? c).isSome

/-- Whether there is a digit in front. -/
def digitAhead : Reading Bool := do
  return (← peek).any isDigit

/-- Read digits on from a value as long as it stays within a bound, and count those that are left
over. -/
def clip (most value : Nat) : List Char → Nat × Nat
  | [] => (value, 0)
  | c :: rest =>
      let longer := value * 10 + (Text.digitValue? c).getD 0
      if most < longer then (value, rest.length + 1) else clip most longer rest

/-- The greatest number of 64 bits. -/
def mostDigits : Nat := 18446744073709551615

/-- The greatest exponent. -/
def mostExponent : Nat := 2147483647

/-- The number `value * 10 ^ exponent` at double precision. -/
def fraction (negative : Bool) (value : Nat) (exponent : Int) : Reading Json := do
  match Double.ofDecimal? value exponent with
  | some x =>
      let (digits, power) := x.shortest
      return .real negative digits power
  | none => failHere .numberTooGreat

/-- Whether an exponent is to follow. -/
def exponentAhead : Reading Bool := do
  return (← peek).any fun c => c == 'e' || c == 'E'

/-- Read the sign of an exponent; whether it is a minus. -/
def exponentSign : Reading Bool := do
  match ← peek with
  | some '+' =>
      advance
      return false
  | some '-' =>
      advance
      return true
  | _ => return false

/-- Read an exponent from its letter on, and give the number. -/
def exponent (negative : Bool) (value : Nat) (start : Int) : Reading Json := do
  advance
  let minus ← exponentSign
  match ← peek with
  | none => failHere (.ended .value)
  | some c => if !isDigit c then failAhead .badNumber
  let digits := (← get).rest.takeWhile isDigit
  let (power, left) := clip mostExponent 0 digits
  if 0 < left ∧ value ≠ 0 ∧ !minus then
    failAfter (digits.length - left + 1) .numberTooGreat
  else
    let _ ← takeWhile isDigit
    if 0 < left then return .real negative 0 0
    else fraction negative value (if minus then start - power else start + power)

/-- Read the places behind a point from the point on, and give the number. -/
def places (negative : Bool) (value : Nat) (start : Int) : Reading Json := do
  advance
  let digits ← takeWhile isDigit
  if digits.isEmpty then
    match ← peek with
    | none => failHere (.ended .value)
    | some _ => failAhead .badNumber
  else
    let (value, left) := clip mostDigits value digits
    let power := start - (digits.length - left : Nat)
    if ← exponentAhead then exponent negative value power else fraction negative value power

/-- The number that whole digits alone stand for. -/
def settleNumber (negative : Bool) (value : Nat) : Reading Json := do
  if negative then
    if value = 0 ∨ -(value : Int) < leastWhole then fraction true value 0
    else return .int (-value)
  else
    return .int value

/-- Read a number behind its minus sign, if it has one. -/
def number (negative : Bool) : Reading Json := do
  match ← peek with
  | none => failHere (.ended .value)
  | some c => if !isDigit c then failAhead .badNumber
  if (← peek) == some '0' then
    advance
    if ← digitAhead then failAhead .badNumber
  let digits ← takeWhile isDigit
  let (value, left) := clip mostDigits 0 digits
  if (← peek) == some '.' then places negative value left
  else if ← exponentAhead then exponent negative value left
  else if 0 < left then fraction negative value left
  else settleNumber negative value

/-- Pass over an exponent from its letter on. -/
def skipExponent : Reading Unit := do
  advance
  let _ ← exponentSign
  if ← digitAhead then
    let _ ← takeWhile isDigit
  else
    failAhead .badNumber

/-- Pass over a number behind its minus sign, if it has one. -/
def skipNumber : Reading Unit := do
  if !(← digitAhead) then failAhead .badNumber
  if (← peek) == some '0' then
    advance
    if ← digitAhead then failAhead .badNumber
  let _ ← takeWhile isDigit
  if (← peek) == some '.' then
    advance
    if !(← digitAhead) then failAhead .badNumber
    let _ ← takeWhile isDigit
  if ← exponentAhead then skipExponent

end Reading
end Json
end ProvisionWatch

import ProvisionWatch.Json.Writer
import ProvisionWatch.Text.Quoted

/-!
# What is wrong with a text or a value

A text may break the rules of JSON, or it may stand for a value that is not the
one that was asked for.  A flaw is the cause; a fault is a flaw with the place at
which it was noticed, if it was noticed in a text.
-/

namespace ProvisionWatch
namespace Json

/-! ## What was found -/

/-- What stands where something else was asked for. -/
inductive Found where
  | null
  | truth (value : Bool)
  | whole (value : Int)
  | real (negative : Bool) (digits : Nat) (exponent : Int)
  | text (value : String)
  | list
  | table
deriving DecidableEq, Repr

/-- What a value is found to be. -/
def found : Json → Found
  | null => .null
  | bool b => .truth b
  | int n => .whole n
  | real negative digits exponent => .real negative digits exponent
  | str s => .text s
  | arr _ => .list
  | obj _ => .table

/-- What was found, in words. -/
def Found.words : Found → String
  | null => "null"
  | truth b => "boolean `" ++ (if b then "true" else "false") ++ "`"
  | whole n => "integer `" ++ Text.intText n ++ "`"
  | real negative digits exponent =>
      "floating point `" ++ String.ofList (realChars negative digits exponent) ++ "`"
  | text s => "string " ++ Text.shown s
  | list => "sequence"
  | table => "map"

/-! ## Flaws -/

/-- What a text may end in the middle of. -/
inductive Enclosing where
  | list
  | object
  | string
  | value
deriving DecidableEq, Repr

/-- What is wrong. -/
inductive Flaw where
  /-- The text ends too early. -/
  | ended (within : Enclosing)
  | noColon
  | noListEnd
  | noObjectEnd
  /-- A value starts like `null`, `true` or `false` but goes on otherwise. -/
  | noWord
  | noValue
  | badEscape
  | badNumber
  | numberTooGreat
  | controlCharacter
  | nameNotText
  | loneSurrogate
  | unfinishedPair
  | trailingComma
  | trailingText
  /-- Lists and objects lie in each other too deeply. -/
  | tooDeep
  | wrongType (found : Found) (expected : String)
  | wrongValue (found : Found) (expected : String)
  | wrongLength (length : Nat) (expected : String)
  | missing (name : String)
  | repeated (name : String)
  | unknownName (name : String) (known : List String)
  /-- A string does not say what it should; the reason in words. -/
  | unreadable (reason : String)
deriving DecidableEq, Repr

/-- A name between marks. -/
def marked (name : String) : String :=
  "`" ++ name ++ "`"

/-- The names that may be used, in words. -/
def oneOf : List String → String
  | [] => "there are no variants"
  | [a] => "expected " ++ marked a
  | [a, b] => "expected " ++ marked a ++ " or " ++ marked b
  | names => "expected one of " ++ ", ".intercalate (names.map marked)

/-- What is wrong, in words. -/
def Flaw.words : Flaw → String
  | ended .list => "EOF while parsing a list"
  | ended .object => "EOF while parsing an object"
  | ended .string => "EOF while parsing a string"
  | ended .value => "EOF while parsing a value"
  | noColon => "expected `:`"
  | noListEnd => "expected `,` or `]`"
  | noObjectEnd => "expected `,` or `\x7d`"
  | noWord => "expected ident"
  | noValue => "expected value"
  | badEscape => "invalid escape"
  | badNumber => "invalid number"
  | numberTooGreat => "number out of range"
  | controlCharacter =>
      "control character (\\u0000-\\u001F) found while parsing a string"
  | nameNotText => "key must be a string"
  | loneSurrogate => "lone leading surrogate in hex escape"
  | unfinishedPair => "unexpected end of hex escape"
  | trailingComma => "trailing comma"
  | trailingText => "trailing characters"
  | tooDeep => "recursion limit exceeded"
  | wrongType found expected => "invalid type: " ++ found.words ++ ", expected " ++ expected
  | wrongValue found expected => "invalid value: " ++ found.words ++ ", expected " ++ expected
  | wrongLength n expected => "invalid length " ++ Text.natText n ++ ", expected " ++ expected
  | missing name => "missing field " ++ marked name
  | repeated name => "duplicate field " ++ marked name
  | unknownName name known => "unknown variant " ++ marked name ++ ", " ++ oneOf known
  | unreadable reason => reason

/-! ## Faults -/

/-- A place in a text: its line, from one on, and the bytes before it on this line. -/
structure Place where
  line : Nat
  column : Nat
deriving DecidableEq, Repr

/-- What is wrong, and where it was noticed. -/
structure Fault where
  flaw : Flaw
  place : Option Place
deriving DecidableEq, Repr

namespace Fault

/-- The fault, at this place unless it has one already. -/
def placedAt (f : Fault) (p : Place) : Fault :=
  { f with place := f.place.or (some p) }

/-- Whether the text ends too early. -/
def isEarlyEnd (f : Fault) : Bool :=
  match f.flaw with
  | .ended _ => true
  | _ => false

/-- The fault in words. -/
def text (f : Fault) : String :=
  match f.place with
  | none => f.flaw.words
  | some p =>
      f.flaw.words ++ " at line " ++ Text.natText p.line ++ " column " ++ Text.natText p.column

end Fault
end Json
end ProvisionWatch

import ProvisionWatch.Json.Flaw
import ProvisionWatch.Text.Utf8

/-!
# Reading from a place

A cursor stands at a place of a text and holds what is left of it.  A reading
moves the cursor and gives a value or a fault.  Most faults are noticed either
at the character in front of the cursor or behind it; a fault without a place
gets the one at which the value that has it ends.

Main results:

- Theorems `start_left` and `next_left`: a cursor knows how much is left.
-/

namespace ProvisionWatch
namespace Json

/-! ## Cursors -/

/-- A place in a text, what is left of the text, and how much that is. -/
structure Cursor where
  rest : List Char
  left : Nat
  place : Place
deriving DecidableEq, Repr

namespace Cursor

/-- The start of a text. -/
def start (s : String) : Cursor :=
  let rest := s.toList
  { rest := rest, left := rest.length, place := { line := 1, column := 0 } }

/-- The place behind a character. -/
def behind (p : Place) (c : Char) : Place :=
  if c = '\n' then { line := p.line + 1, column := 0 }
  else { p with column := p.column + (Text.bytes c.toNat).length }

/-- One character on. -/
def next (c : Cursor) : Cursor :=
  match c.rest with
  | [] => c
  | x :: rest => { rest := rest, left := c.left - 1, place := behind c.place x }

/-- The place so many bytes on, or the end. -/
def placeIn (place : Place) (bytes : Nat) : List Char → Place
  | [] => place
  | x :: rest =>
      let size := (Text.bytes x.toNat).length
      if bytes = 0 then place
      else if size ≤ bytes then placeIn (behind place x) (bytes - size) rest
      else { place with column := place.column + bytes }

/-- The place so many bytes on, or the end. -/
def placeAfter (c : Cursor) (bytes : Nat) : Place :=
  placeIn c.place bytes c.rest

/-- At the start of a text all of it is left. -/
@[simp]
theorem start_left (s : String) : (start s).left = (start s).rest.length :=
  rfl

/-- A cursor that knows how much is left knows it after the next character. -/
theorem next_left (c : Cursor) (h : c.left = c.rest.length) :
    c.next.left = c.next.rest.length := by
  obtain ⟨rest, left, place⟩ := c
  cases rest with
  | nil => exact h
  | cons x rest =>
      simp only [List.length_cons] at h
      simp [next, h]

end Cursor

/-! ## Readings -/

/-- A reading from a text. -/
abbrev Reading (α : Type) := EStateM Fault Cursor α

namespace Reading

/-- The next character, if there is one. -/
def peek : Reading (Option Char) := do
  return (← get).rest.head?

/-- Move on by a character. -/
def advance : Reading Unit :=
  modify Cursor.next

/-- A fault without a place. -/
def complain (flaw : Flaw) : Reading α :=
  throw { flaw := flaw, place := none }

/-- A fault at the cursor. -/
def failHere (flaw : Flaw) : Reading α := do
  throw { flaw := flaw, place := some (← get).place }

/-- A fault so many bytes on. -/
def failAfter (bytes : Nat) (flaw : Flaw) : Reading α := do
  throw { flaw := flaw, place := some ((← get).placeAfter bytes) }

/-- A fault behind the first byte of the next character. -/
def failAhead (flaw : Flaw) : Reading α :=
  failAfter 1 flaw

/-- Give a fault without a place the one where the reading stopped. -/
def located (r : Reading α) : Reading α := fun c =>
  match r c with
  | .ok a c => .ok a c
  | .error f c => .error (f.placedAt c.place) c

/-- Read something and then its end.  The end is looked for even if there was a fault before, but
that fault counts. -/
def closedBy (r : Reading α) (last : Reading Unit) : Reading α := fun c =>
  match r c with
  | .ok a c =>
      match last c with
      | .ok _ c => .ok a c
      | .error f c => .error f c
  | .error f c =>
      match last c with
      | .ok _ c => .error f c
      | .error _ c => .error f c

/-- The characters in front that a test holds of, which are passed over. -/
def takeWhile (p : Char → Bool) : Reading (List Char) := do
  let taken := (← get).rest.takeWhile p
  modify fun c => taken.foldl (fun c _ => c.next) c
  return taken

/-- Whether a character is a blank between tokens. -/
def isSpace (c : Char) : Bool :=
  c == ' ' || c == '\n' || c == '\r' || c == '\t'

/-- Pass over blanks and look at the next character. -/
def peekToken : Reading (Option Char) := do
  let _ ← takeWhile isSpace
  peek

/-- Read a whole text. -/
def run (r : Reading α) (s : String) : Except Fault α :=
  match r (Cursor.start s) with
  | .ok a _ => .ok a
  | .error f _ => .error f

end Reading
end Json
end ProvisionWatch

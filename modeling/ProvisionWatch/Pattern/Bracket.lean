import ProvisionWatch.Pattern.Escape

/-!
# Classes in brackets

A class in brackets lists characters, ranges of characters, and further
classes.  Two lists can be put together by an operation; operations are taken
from the left.  What stands between brackets has a depth: one more for a class,
for a list of several items and for an operation than for what is in it.
-/

namespace ProvisionWatch
namespace Pattern

/-! ## Items -/

/-- A class with the depth of its nesting. -/
structure ReadClass where
  chars : CharSet
  depth : Nat
deriving DecidableEq, Repr

/-- One character, or what stands behind a backslash. -/
def readClassItem (f : Flags) : List Char → Option (Escaped × List Char)
  | '\\' :: rest => readEscape f rest
  | c :: rest => some (.char c.toNat, rest)
  | [] => none

/-- The number of a character that can stand in a class.  Without Unicode that is ASCII only. -/
def Flags.classChar (f : Flags) (n : Nat) : Option Nat :=
  if f.unicode || n < 128 then some n else none

/-- A character, a class, or a range of characters. -/
def readClassRange (f : Flags) (cs : List Char) : Option (CharSet × List Char) := do
  let (item, rest) ← readClassItem f cs
  let rest := f.skip rest
  let next := f.following rest.tail
  if rest.head? = some '-' ∧ next ≠ some ']' ∧ next ≠ some '-' then
    let (last, rest) ← readClassItem f (f.skip rest.tail)
    match item, last with
    | .char least, .char greatest => do
        let least ← f.classChar least
        let greatest ← f.classChar greatest
        if least ≤ greatest then
          return ({ stretches := [{ first := least, last := greatest }] }, rest)
        else none
    | _, _ => none
  else
    match item with
    | .char n => (f.classChar n).map fun n => (.single n, rest)
    | .chars chars => some (chars, rest)
    | .look _ => none

/-- A class named between colons, behind its opening bracket, if one stands there. -/
def readNamedClass (cs : List Char) : Option (Bool × List Char × List Char) :=
  match cs with
  | ':' :: rest =>
      let (negated, rest) := match rest with
        | '^' :: rest => (true, rest)
        | rest => (false, rest)
      let name := rest.takeWhile fun c => c != ':'
      match rest.drop name.length with
      | ':' :: ']' :: rest =>
          if (Flags.ofName? (String.ofList name)).isSome then some (negated, name, rest) else none
      | _ => none
  | _ => none

/-! ## Lists and operations -/

/-- A list of items: the union of the items so far, their number, and the greatest of their
depths. -/
structure ClassList where
  chars : List CharSet
  count : Nat
  deepest : Nat
deriving DecidableEq, Repr

/-- The list without items. -/
def ClassList.none : ClassList :=
  { chars := [], count := 0, deepest := 0 }

/-- Add an item to a list. -/
def ClassList.add (l : ClassList) (c : ReadClass) : ClassList :=
  { chars := c.chars :: l.chars, count := l.count + 1, deepest := max l.deepest c.depth }

/-- What a list stands for. -/
def ClassList.read (l : ClassList) : ReadClass :=
  { chars := .unions l.chars, depth := if l.count < 2 then l.deepest else l.deepest + 1 }

/-- How two classes can be put together. -/
inductive ClassOp where
  | inter
  | without
  | either
deriving DecidableEq, Repr

/-- Put two classes together. -/
def ClassOp.apply : ClassOp → CharSet → CharSet → CharSet
  | inter, a, b => a.inter b
  | without, a, b => a.without b
  | either, a, b => a.either b

/-- What a list stands for behind an operation, if there is one. -/
def ClassList.behind (f : Flags) (l : ClassList) : Option (ClassOp × ReadClass) → ReadClass
  | .none => l.read
  | some (op, left) =>
      { chars := op.apply (f.fold left.chars) (f.fold l.read.chars)
        depth := max left.depth l.read.depth + 1 }

/-- The hyphens at the start of a class, or else the one closing bracket there, stand for
themselves; `fuel` bounds their number. -/
def readClassStart (f : Flags) (fuel : Nat) (l : ClassList) (cs : List Char) :
    ClassList × List Char :=
  match fuel, cs with
  | fuel + 1, '-' :: rest =>
      readClassStart f fuel (l.add { chars := .single 45, depth := 0 }) (f.skip rest)
  | _, ']' :: rest =>
      if l.count = 0 then (l.add { chars := .single 93, depth := 0 }, f.skip rest)
      else (l, ']' :: rest)
  | _, cs => (l, cs)

mutual

/-- Read a class behind its opening bracket. -/
def readClass (fuel : Nat) (f : Flags) (cs : List Char) : Option (ReadClass × List Char) :=
  match fuel with
  | 0 => none
  | fuel + 1 => do
      let cs := f.skip cs
      let negated := cs.head? == some '^'
      let cs := if negated then f.skip cs.tail else cs
      let (first, cs) := readClassStart f cs.length .none cs
      let (c, rest) ← readClassItems fuel f none first cs
      let chars ← f.choose negated (f.fold c.chars)
      return ({ chars := chars, depth := c.depth + 1 }, rest)

/-- Read the items of a class up to its closing bracket. -/
def readClassItems (fuel : Nat) (f : Flags) (pending : Option (ClassOp × ReadClass))
    (l : ClassList) (cs : List Char) : Option (ReadClass × List Char) :=
  match fuel with
  | 0 => none
  | fuel + 1 =>
      match f.skip cs with
      | [] => none
      | ']' :: rest => some (l.behind f pending, rest)
      | '[' :: rest =>
          match readNamedClass rest with
          | some (negated, name, rest) => do
              let chars ← f.namedClass negated name
              readClassItems fuel f pending (l.add { chars := chars, depth := 0 }) rest
          | none => do
              let (c, rest) ← readClass fuel f rest
              readClassItems fuel f pending (l.add c) rest
      | '&' :: '&' :: rest =>
          readClassItems fuel f (some (.inter, l.behind f pending)) .none rest
      | '-' :: '-' :: rest =>
          readClassItems fuel f (some (.without, l.behind f pending)) .none rest
      | '~' :: '~' :: rest =>
          readClassItems fuel f (some (.either, l.behind f pending)) .none rest
      | cs => do
          let (chars, rest) ← readClassRange f cs
          readClassItems fuel f pending (l.add { chars := chars, depth := 0 }) rest

end

end Pattern
end ProvisionWatch

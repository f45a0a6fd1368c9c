import ProvisionWatch.Pattern.Bracket
import ProvisionWatch.Pattern.Footprint

/-!
# Reading patterns

The written form of patterns: characters, classes in brackets, groups,
alternatives, repetitions, assertions and flags.  There is no looking around
and no reference back to a group.  A pattern is refused when it is not well
formed, nested too deeply, or too large once its repetitions are written out.
-/

namespace ProvisionWatch
namespace Pattern

/-! ## Repetitions -/

/-- A number of at most 32 bits, with blanks around it. -/
def readCount (f : Flags) (cs : List Char) : Option (Nat × List Char) :=
  let cs := cs.dropWhile Text.isBlank
  let (ds, rest) := f.readWhile (fun c => (Text.digitValue? c).isSome) cs.length cs
  let (_, rest) := f.readWhile Text.isBlank rest.length rest
  match (Text.ofDigits ds).filter fun n => n < 4294967296 with
  | some n => some (n, rest)
  | none => none

/-- The bounds of a repetition, behind its opening brace.  The least number may not be left out. -/
def readBounds (f : Flags) (cs : List Char) : Option (Nat × Option Nat × List Char) := do
  let (least, rest) ← readCount f (f.skip cs)
  match rest with
  | '\x7d' :: rest => return (least, some least, rest)
  | ',' :: rest =>
      match f.skip rest with
      | '\x7d' :: rest => return (least, none, rest)
      | rest =>
          let (most, rest) ← readCount f rest
          match rest with
          | '\x7d' :: rest => if least ≤ most then return (least, some most, rest) else none
          | _ => none
  | _ => none

/-! ## Parts -/

/-- A part of a pattern with the depth of its nesting.  Flags are parts that cannot be repeated. -/
structure Part where
  pattern : Pattern
  depth : Nat
  repeatable : Bool
deriving DecidableEq, Repr

namespace Part

/-- A part that is nested in nothing. -/
def plain (pattern : Pattern) : Part :=
  { pattern := pattern, depth := 0, repeatable := true }

/-- What stands for flags. -/
def flags : Part :=
  { pattern := .empty, depth := 0, repeatable := false }

/-- How deep several parts are side by side. -/
def depthOf (parts : List Part) : Nat :=
  let deepest := parts.foldl (fun d p => max d p.depth) 0
  if parts.length < 2 then deepest else deepest + 1

/-- The parts of a branch, the last in front, one after the other. -/
def row (parts : List Part) : Part :=
  { pattern := sequence (parts.reverse.map Part.pattern), depth := depthOf parts,
    repeatable := true }

/-- Branches, the last in front, as alternatives. -/
def choice (branches : List Part) : Part :=
  { pattern := alternatives (branches.reverse.map Part.pattern), depth := depthOf branches,
    repeatable := true }

/-- Repeat a part; a question mark behind the repetition turns its preference around. -/
def repeated? (f : Flags) (p : Part) (least : Nat) (most : Option Nat) (cs : List Char) :
    Option (Part × List Char) :=
  if !p.repeatable then none
  else
    let (marked, rest) := match cs with
      | '?' :: rest => (true, rest)
      | cs => (false, cs)
    some ({ pattern := repeated p.pattern least most (marked == f.reluctant), depth := p.depth + 1,
            repeatable := true }, rest)

end Part

/-! ## Groups -/

/-- Whether a character can stand in the name of a group, and whether it can begin one. -/
def isNameChar (first : Bool) (c : Char) : Bool :=
  c == '_' || Unicode.alphabetic.mem c ||
    (!first && (c == '.' || c == '[' || c == ']' ||
      (Unicode.Category.charsOf Unicode.Category.numbers).mem c))

/-- The name of a group, up to its closing angle; no other group has it. -/
def readGroupName (names : List (List Char)) (cs : List Char) :
    Option (List Char × List Char) :=
  let name := cs.takeWhile fun c => c != '>'
  match name, cs.drop name.length with
  | c :: more, '>' :: rest =>
      if isNameChar true c && more.all (isNameChar false) && !names.contains name then
        some (name, rest)
      else none
  | _, _ => none

/-- What opens a group. -/
inductive Opening where
  /-- A group, with flags of its own. -/
  | unnamed (flags : Flags)
  /-- A group that is remembered, with its name if it has one. -/
  | remembered (name : Option (List Char))
  /-- Flags for the rest of the enclosing group. -/
  | flags (flags : Flags)

/-- Read what stands behind an opening parenthesis. -/
def readOpening (f : Flags) (names : List (List Char)) (cs : List Char) :
    Option (Opening × List Char) :=
  match f.skip cs with
  | '?' :: '=' :: _ => none
  | '?' :: '!' :: _ => none
  | '?' :: '<' :: '=' :: _ => none
  | '?' :: '<' :: '!' :: _ => none
  | '?' :: 'P' :: '<' :: rest =>
      (readGroupName names rest).map fun (name, rest) => (.remembered (some name), rest)
  | '?' :: '<' :: rest =>
      (readGroupName names rest).map fun (name, rest) => (.remembered (some name), rest)
  | '?' :: rest =>
      match f.read [] false rest with
      | some (new, _, ':' :: rest) => some (.unnamed new, rest)
      | some (new, seen, ')' :: rest) => if seen.isEmpty then none else some (.flags new, rest)
      | _ => none
  | rest => some (.remembered none, rest)

/-- The groups that are remembered so far: their number, and the names of those that have one. -/
structure Groups where
  count : Nat
  names : List (List Char)
deriving DecidableEq, Repr

/-- Remember one more group. -/
def Groups.add (g : Groups) (name : Option (List Char)) : Groups :=
  { count := g.count + 1, names := name.toList ++ g.names }

/-! ## Patterns -/

/-- The result of reading up to the end of a group or of the text. -/
structure ReadGroup where
  part : Part
  groups : Groups
  rest : List Char
deriving DecidableEq, Repr

/-- Read one character, one class or one assertion. -/
def readPrimitive (f : Flags) : List Char → Option (Pattern × List Char)
  | '.' :: rest => f.dot.map fun p => (p, rest)
  | '^' :: rest => some (.look f.circumflex, rest)
  | '$' :: rest => some (.look f.dollar, rest)
  | '\\' :: rest => do
      let (escaped, rest) ← readEscape f rest
      match escaped with
      | .char n => return (f.char n, rest)
      | .chars s => return (ofChars s, rest)
      | .look l => return (.look l, rest)
  | c :: rest => some (f.char c.toNat, rest)
  | [] => none

/-- The sign of a repetition: how often at least and at most, and the rest. -/
def readRepetition? (f : Flags) : List Char → Option (Option (Nat × Option Nat × List Char))
  | '*' :: rest => some (some (0, none, rest))
  | '+' :: rest => some (some (1, none, rest))
  | '?' :: rest => some (some (0, some 1, rest))
  | '\x7b' :: rest =>
      some ((readBounds f rest).map fun (least, most, rest) => (least, most, f.skip rest))
  | _ => none

/-- Read branches up to a closing parenthesis or the end of the text. -/
def readBranches (fuel : Nat) (inGroup : Bool) (f : Flags) (groups : Groups)
    (branches : List Part) (parts : List Part) (cs : List Char) : Option ReadGroup :=
  match fuel with
  | 0 => none
  | fuel + 1 =>
      match f.skip cs with
      | [] =>
          if inGroup then none
          else some { part := .choice (.row parts :: branches), groups := groups, rest := [] }
      | ')' :: rest =>
          if inGroup then
            some { part := .choice (.row parts :: branches), groups := groups, rest := rest }
          else none
      | '|' :: rest => readBranches fuel inGroup f groups (.row parts :: branches) [] rest
      | '(' :: rest => do
          let (opening, rest) ← readOpening f groups.names rest
          match opening with
          | .flags new => readBranches fuel inGroup new groups branches (.flags :: parts) rest
          | .unnamed new =>
              let g ← readBranches fuel true new groups [] [] rest
              let part : Part := { g.part with depth := g.part.depth + 1 }
              readBranches fuel inGroup f g.groups branches (part :: parts) g.rest
          | .remembered name =>
              let number := groups.count + 1
              let g ← readBranches fuel true f (groups.add name) [] [] rest
              let part : Part :=
                { g.part with
                  pattern := .group number g.part.pattern, depth := g.part.depth + 1 }
              readBranches fuel inGroup f g.groups branches (part :: parts) g.rest
      | '[' :: rest => do
          let (c, rest) ← readClass (2 * rest.length + 2) f rest
          let part : Part := { pattern := ofChars c.chars, depth := c.depth, repeatable := true }
          readBranches fuel inGroup f groups branches (part :: parts) rest
      | cs =>
          match readRepetition? f cs with
          | some bounds => do
              let (least, most, rest) ← bounds
              let (last, before) ← parts.head?.map fun last => (last, parts.tail)
              let (part, rest) ← last.repeated? f least most rest
              readBranches fuel inGroup f groups branches (part :: before) rest
          | none => do
              let (p, rest) ← readPrimitive f cs
              readBranches fuel inGroup f groups branches (.plain p :: parts) rest

/-- How deeply a pattern may be nested. -/
def greatestDepth : Nat := 250

/-- Read a pattern. -/
def read? (text : String) : Option Pattern := do
  let cs := text.toList
  let g ← readBranches (cs.length + 1) false .standard { count := 0, names := [] } [] [] cs
  if g.part.depth ≤ greatestDepth ∧ fits g.part.pattern then some g.part.pattern else none

end Pattern
end ProvisionWatch

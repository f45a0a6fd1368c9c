import ProvisionWatch.Pattern.Basic

/-!
# Patterns in a simple form

Patterns are put together so that they stay simple: a class of one character
is that character, characters in a row are one literal, rows and alternatives
are flat, alternatives of single characters or of classes are one class, and
what all alternatives begin with stands in front of them.
-/

namespace ProvisionWatch
namespace Pattern

/-! ## Lengths -/

/-- The length of the shortest text that a pattern describes, if it describes any. -/
def shortest : Pattern → Option Nat
  | empty => some 0
  | literal chars => some chars.length
  | one chars => if chars.stretches.isEmpty then none else some 1
  | look _ => some 0
  | group _ p => p.shortest
  | seq a b => do return (← a.shortest) + (← b.shortest)
  | alt a b => do return min (← a.shortest) (← b.shortest)
  | many p least _ _ => p.shortest.map fun n => n * least

/-- The length of the longest text that a pattern describes, if there is one. -/
def longest : Pattern → Option Nat
  | empty => some 0
  | literal chars => some chars.length
  | one chars => if chars.stretches.isEmpty then none else some 1
  | look _ => some 0
  | group _ p => p.longest
  | seq a b => do return (← a.longest) + (← b.longest)
  | alt a b => do return max (← a.longest) (← b.longest)
  | many p _ most _ => do return (← p.longest) * (← most)

/-! ## Classes and repetitions -/

/-- The class of the characters of a set. -/
def ofChars (s : CharSet) : Pattern :=
  match s.only? with
  | some n => literal [Char.ofNat n]
  | none => one s

/-- A pattern so many times.  What describes no more than the empty text need not be repeated. -/
def repeated (p : Pattern) (least : Nat) (most : Option Nat) (greedy : Bool) : Pattern :=
  let (least, most) :=
    if p.longest = some 0 then (min least 1, some (min (most.getD 1) 1)) else (least, most)
  if least = 0 ∧ most = some 0 then empty
  else if least = 1 ∧ most = some 1 then p
  else many p least most greedy

/-! ## Rows -/

/-- The parts of a row. -/
def parts : Pattern → List Pattern
  | empty => []
  | seq a b => a.parts ++ b.parts
  | p => [p]

/-- Put literals that stand side by side together. -/
def mergeLiterals : List Pattern → List Pattern
  | literal a :: rest =>
      match mergeLiterals rest with
      | literal b :: rest => literal (a ++ b) :: rest
      | rest => literal a :: rest
  | p :: rest => p :: mergeLiterals rest
  | [] => []

/-- A row of parts. -/
def ofParts : List Pattern → Pattern
  | [] => empty
  | [p] => p
  | p :: rest => seq p (ofParts rest)

/-- Patterns in a row. -/
def sequence (ps : List Pattern) : Pattern :=
  ofParts (mergeLiterals (ps.flatMap parts))

/-! ## Alternatives -/

/-- The branches of alternatives. -/
def branches : Pattern → List Pattern
  | alt a b => a.branches ++ b.branches
  | p => [p]

/-- Alternatives of some branches. -/
def ofBranches : List Pattern → Pattern
  | [] => one .empty
  | [p] => p
  | p :: rest => alt p (ofBranches rest)

/-- The number of the character of a literal of one character. -/
def onlyChar? : Pattern → Option Nat
  | literal [c] => some c.toNat
  | _ => none

/-- The set of the characters of a class. -/
def charSet? : Pattern → Option CharSet
  | one s => some s
  | _ => none

/-- Branches that are all single characters, or all classes, as one class; others as they are. -/
def joinBranches (ps : List Pattern) : Pattern :=
  let bs := ps.flatMap branches
  if bs.length < 2 then ofBranches bs
  else
    match bs.mapM onlyChar?, bs.mapM charSet? with
    | some ns, _ => ofChars (.ofNumbers ns)
    | none, some sets => ofChars (.unions sets)
    | none, none => ofBranches bs

/-- What two rows have in common at their start. -/
def commonStart : List Pattern → List Pattern → List Pattern
  | a :: as, b :: bs => if a = b then a :: commonStart as bs else []
  | _, _ => []

/-- Whether a pattern is a row of two parts or more. -/
def isRow : Pattern → Bool
  | seq _ _ => true
  | _ => false

/-- What all branches have in common at their start, if all of them are rows. -/
def sharedStart : List Pattern → List Pattern
  | b :: bs =>
      if (b :: bs).all isRow then bs.foldl (fun start c => commonStart start c.parts) b.parts
      else []
  | [] => []

/-- Patterns as alternatives. -/
def alternatives (ps : List Pattern) : Pattern :=
  match joinBranches ps with
  | alt a b =>
      let bs := (alt a b).branches
      let start := sharedStart bs
      if start.isEmpty then alt a b
      else
        let tails := bs.map fun c => sequence (c.parts.drop start.length)
        sequence (start ++ [joinBranches tails])
  | p => p

end Pattern
end ProvisionWatch

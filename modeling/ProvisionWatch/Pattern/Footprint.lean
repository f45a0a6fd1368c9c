import ProvisionWatch.Pattern.Simplify
import ProvisionWatch.Text.Utf8
import Std.Data.HashMap

/-!
# How much room a pattern takes

A pattern is laid out as an automaton that reads bytes, once for reading a
text forwards and once for reading it backwards, and neither may take too much
room.  Repetitions are written out.  A state takes 32 bytes, a step of a state
with many steps takes eight bytes more, and a branch of a fork four.

States of a class that agree in all of their steps are laid out once, as far as
they are remembered: a memory has a fixed number of slots, and what comes to a
slot displaces what was in it.
-/

namespace ProvisionWatch
namespace Pattern

/-! ## Room -/

/-- What has been laid out so far: the number of states, and the bytes for steps and branches. -/
structure Footprint where
  states : Nat
  links : Nat
deriving DecidableEq, Repr

namespace Footprint

/-- How many bytes are taken. -/
def size (f : Footprint) : Nat :=
  32 * f.states + f.links

/-- How many bytes may be taken. -/
def limit : Nat := 10485760

/-- A footprint that is not too large. -/
def checked (f : Footprint) : Option Footprint :=
  if f.size ≤ limit then some f else none

/-- Add a state that takes some bytes for its links. -/
def add (f : Footprint) (links : Nat) : Footprint :=
  { states := f.states + 1, links := f.links + links }

end Footprint

/-- Laying out a part of a pattern; it fails when there is no room. -/
abbrev Laying := StateT Footprint Option

/-- Lay out a state; the answer is its number. -/
def layState (links : Nat) : Laying Nat := fun f => do
  let f' ← (f.add links).checked
  return (f.states, f')

/-- Lay out several states. -/
def layStates (count links : Nat) : Laying Unit := fun f => do
  let f' ← Footprint.checked { states := f.states + count, links := f.links + links }
  return ((), f')

/-- Lay out so many branches of forks. -/
def layBranches (count : Nat) : Laying Unit := fun f => do
  let f' ← Footprint.checked { f with links := f.links + 4 * count }
  return ((), f')

/-- Go on from the end of a part, which takes a branch if the part ends with a fork. -/
def goOn (endsWithFork : Bool) : Laying Unit :=
  layBranches (if endsWithFork then 1 else 0)

/-- Lay out a part so many times more, behind an end; the answer is whether it ends with a fork. -/
def layAgain (part : Laying Bool) : Nat → Bool → Laying Bool
  | 0, fork => pure fork
  | n + 1, fork => do
      let next ← part
      goOn fork
      layAgain part n next

/-- Lay out a part so many times. -/
def layTimes (part : Laying Bool) : Nat → Laying Bool
  | 0 => do
      let _ ← layState 0
      return false
  | n + 1 => do layAgain part n (← part)

/-- Lay out a part so many times more, each of them optional. -/
def layOptional (part : Laying Bool) : Nat → Bool → Laying Bool
  | 0, fork => pure fork
  | n + 1, fork => do
      let _ ← layState 0
      let next ← part
      goOn fork
      layBranches 2
      layOptional part n next

/-! ## Memories -/

/-- What is remembered in the slots of a memory: keys with the numbers of their states. -/
abbrev Memory := Std.HashMap Nat (List Nat × Nat)

/-- The slot of a key, in a memory of so many slots. -/
def slot (slots : Nat) (key : List Nat) : Nat :=
  let hash := key.foldl (fun (h : UInt64) n => (h ^^^ n.toUInt64) * 1099511628211)
    14695981039346656037
  hash.toNat % slots

/-- The state of a key: the one that is remembered, or else a new one that is remembered from now
on. -/
def remember (slots links : Nat) (key : List Nat) : StateT Memory Laying Nat := do
  let memory ← get
  let i := slot slots key
  match memory[i]? with
  | some (k, state) => if k = key then return state
  | none => pure ()
  let state ← (layState links : Laying Nat)
  set (memory.insert i (key, state))
  return state

/-! ## Classes -/

/-- Rows without their first stretches, put together where these are the same in a row. -/
def groupRows : List (List Stretch) → List (Stretch × List (List Stretch))
  | [] => []
  | [] :: rest => groupRows rest
  | (s :: row) :: rest =>
      match groupRows rest with
      | (t, rows) :: groups =>
          if s = t then (s, row :: rows) :: groups else (s, [row]) :: (t, rows) :: groups
      | [] => [(s, [row])]

/-- Lay out the states that read some rows and then go to a target.  `fuel` bounds the length of
the rows. -/
def layRows (target : Nat) : Nat → List (List Stretch) → StateT Memory Laying Nat
  | 0, _ => pure target
  | fuel + 1, rows =>
      if rows.all List.isEmpty then pure target
      else do
        let mut key : List Nat := []
        let mut steps := 0
        for (s, rest) in groupRows rows do
          let next ← layRows target fuel rest
          key := key ++ [s.first, s.last, next]
          steps := steps + 1
        remember 10000 (8 * steps) key

/-- Lay out a class for reading forwards. -/
def layClassForward (s : CharSet) : Laying Unit := do
  let target ← layState 0
  let _ ← (layRows target 4 (s.stretches.flatMap Text.byteRows)).run' ∅

/-- Lay out the states that read a row backwards and go to an end. -/
def layRowBackward (last : Nat) : List Stretch → StateT Memory Laying Unit
  | [] => pure ()
  | s :: row => do
      let state ← remember 1000 0 [last, s.first, s.last]
      layRowBackward state row

/-- Lay out a class for reading backwards. -/
def layClassBackward (s : CharSet) : Laying Unit := do
  let _ ← layState 0
  let last ← layState 0
  let rows := s.stretches.flatMap Text.byteRows
  (rows.forM fun row => do
    layRowBackward last row
    (layBranches 1 : Laying Unit)).run' ∅

/-- Lay out a class. -/
def layClass (backward : Bool) (s : CharSet) : Laying Unit := do
  if s.isAscii then
    let _ ← layState 0
    let _ ← layState (8 * s.stretches.length)
  else if backward then layClassBackward s
  else layClassForward s

/-! ## Alternatives of literals -/

/-- Words cut at the empty ones: what comes before each of them, and what comes behind the last. -/
def cutAtEnds : List (List Nat) → List (List (List Nat))
  | [] => [[]]
  | [] :: rest => [] :: cutAtEnds rest
  | word :: rest =>
      match cutAtEnds rest with
      | first :: more => (word :: first) :: more
      | [] => [[word]]

/-- The words behind each first byte, in the order in which the bytes appear first. -/
def behindBytes (words : List (List Nat)) : List (List (List Nat)) :=
  let first := (words.filterMap List.head?).eraseDups
  first.map fun b => (words.filter fun w => w.head? == some b).map List.tail

/-- The footprint of a tree that reads words.  Words that end at the root cut its steps into
chunks, and only what comes first is not noted twice.  `fuel` bounds the length of the words. -/
def treeFootprint : Nat → List (List Nat) → Footprint
  | 0, _ => { states := 0, links := 0 }
  | fuel + 1, words =>
      if words.all List.isEmpty then { states := 0, links := 0 }
      else
        let found := words.dropWhile List.isEmpty
        let chunks := cutAtEnds found
        let noted := chunks.length - 1 + (if found.length < words.length then 1 else 0)
        let steps := chunks.map behindBytes
        let filled := steps.filter fun s => !s.isEmpty
        let own : Footprint :=
          { states := 1 + filled.length
            links := 4 * (filled.length + noted) +
              filled.foldl (fun n s => if s.length = 1 then n else n + 8 * s.length) 0 }
        (filled.flatten.map (treeFootprint fuel)).foldl
          (fun f g => { states := f.states + g.states, links := f.links + g.links }) own

/-- The bytes of a literal. -/
def literalBytes? : Pattern → Option (List Nat)
  | literal chars => some (chars.flatMap fun c => Text.bytes c.toNat)
  | _ => none

/-- Lay out alternatives of literals as a tree. -/
def layTree (backward : Bool) (words : List (List Nat)) : Laying Unit := do
  let words := if backward then words.map List.reverse else words
  let f := treeFootprint (words.foldl (fun n w => max n w.length) 0 + 1) words
  layStates (1 + f.states) f.links

/-! ## Patterns -/

/-- The place of a part among alternatives.  The fork and the common end of alternatives are laid
out behind the second of them. -/
inductive Role where
  | whole
  | secondBranch
  | furtherBranch

/-- Lay out a part in its role. -/
def Role.lay (role : Role) (part : Laying Bool) : Laying Bool := do
  let fork ← part
  match role with
  | whole => return fork
  | secondBranch =>
      layStates 2 4
      goOn fork
      return false
  | furtherBranch =>
      layBranches 1
      goOn fork
      return false

/-- Lay out a pattern; the answer is whether it ends with a fork. -/
def lay (backward : Bool) : Pattern → Role → Laying Bool
  | empty, role => role.lay do
      let _ ← layState 0
      return false
  | literal chars, role => role.lay do
      layStates (Text.byteCount chars) 0
      return false
  | one chars, role => role.lay do
      layClass backward chars
      return false
  | look _, role => role.lay do
      let _ ← layState 0
      return false
  | group _ p, role => role.lay do
      if backward then lay backward p .whole
      else
        let _ ← layState 0
        let fork ← lay backward p .whole
        let _ ← layState 0
        goOn fork
        return false
  | seq a b, role => role.lay do
      if backward then
        let inner ← lay backward b .whole
        let fork ← lay backward a .whole
        goOn inner
        return fork
      else
        let inner ← lay backward a .whole
        let fork ← lay backward b .whole
        goOn inner
        return fork
  | alt a b, role =>
      match role with
      | .whole => do
          match (alt a b).branches.mapM literalBytes? with
          | some words =>
              layTree backward words
              return false
          | none =>
              let fork ← lay backward a .whole
              let _ ← lay backward b .secondBranch
              layBranches 1
              goOn fork
              return false
      | .secondBranch => do
          let _ ← role.lay (lay backward a .whole)
          lay backward b .furtherBranch
      | .furtherBranch => do
          let _ ← role.lay (lay backward a .whole)
          lay backward b .furtherBranch
  | many p least most _, role => role.lay do
      match most with
      | some most =>
          if least = 0 ∧ most = 1 then
            let _ ← layState 0
            let fork ← lay backward p .whole
            let _ ← layState 0
            layBranches 2
            goOn fork
            return false
          else if least = most then layTimes (lay backward p .whole) least
          else
            let fork ← layTimes (lay backward p .whole) least
            let _ ← layState 0
            let fork ← layOptional (lay backward p .whole) (most - least) fork
            goOn fork
            return false
      | none =>
          if least = 0 then
            if p.shortest.any fun n => 0 < n then
              let _ ← layState 0
              let fork ← lay backward p .whole
              layBranches 1
              goOn fork
              return true
            else
              let fork ← lay backward p .whole
              layStates 3 16
              goOn fork
              return false
          else
            let fork ←
              if least = 1 then pure false else layTimes (lay backward p .whole) (least - 1)
            let next ← lay backward p .whole
            let _ ← layState 4
            goOn fork
            goOn next
            return true

/-! ## Whole patterns -/

/-- Whether a pattern describes nothing that does not begin where the text begins, as far as its
first parts say so. -/
def startsAtTextStart : Pattern → Bool
  | look assertion => assertion = .textStart
  | group _ p => p.startsAtTextStart
  | seq a b => a.startsAtTextStart || (a.longest = some 0 && b.startsAtTextStart)
  | alt a b => a.startsAtTextStart && b.startsAtTextStart
  | many p least _ _ => 0 < least && p.startsAtTextStart
  | _ => false

/-- Whether a pattern describes nothing that does not end where the text ends, as far as its last
parts say so. -/
def endsAtTextEnd : Pattern → Bool
  | look assertion => assertion = .textEnd
  | group _ p => p.endsAtTextEnd
  | seq a b => b.endsAtTextEnd || (b.longest = some 0 && a.endsAtTextEnd)
  | alt a b => a.endsAtTextEnd && b.endsAtTextEnd
  | many p least _ _ => 0 < least && p.endsAtTextEnd
  | _ => false

/-- Lay out a whole pattern, behind what passes over the text in front of it. -/
def layWhole (backward : Bool) (p : Pattern) : Laying Unit := do
  let anchored := if backward then p.endsAtTextEnd else p.startsAtTextStart
  if anchored then layStates 1 0 else layStates 3 12
  let fork ← lay backward (group 0 p) .whole
  let _ ← layState 0
  goOn fork
  goOn !anchored

/-- Whether a pattern is not too large. -/
def fits (p : Pattern) : Bool :=
  [false, true].all fun backward => ((layWhole backward p).run { states := 0, links := 0 }).isSome

end Pattern
end ProvisionWatch

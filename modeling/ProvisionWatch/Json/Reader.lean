import ProvisionWatch.Json.Scalar

/-!
# Reading JSON text

A reader for whole texts: one value with blanks around it.  Of several members
of one name the last counts.  Lists and objects may lie in each other up to a
depth.

A value that nobody asks for is passed over.  It may lie as deep as it likes.
-/

namespace ProvisionWatch
namespace Json
namespace Reading

/-! ## Lists and objects -/

/-- One less than how deep lists and objects may lie in each other. -/
def depthLimit : Nat := 128

/-- Go into a list or an object, given how deep it may be. -/
def enter (depth : Nat) : Reading Unit :=
  if depth ≤ 1 then failAhead .tooDeep else advance

/-- Whether another item follows, given whether it is the first. -/
def nextItem (first : Bool) : Reading Bool := do
  match ← peekToken with
  | none => failHere (.ended .list)
  | some ']' => return false
  | some c =>
      if first then return true
      else if c = ',' then
        advance
        match ← peekToken with
        | none => failHere (.ended .value)
        | some ']' => failAhead .trailingComma
        | some _ => return true
      else
        failAhead .noListEnd

/-- The name of the next member, if there is one, given whether it is the first. -/
def nextName (first : Bool) : Reading (Option String) := do
  match ← peekToken with
  | none => failHere (.ended .object)
  | some '\x7d' => return none
  | some c =>
      if first then
        if c ≠ '"' then failAhead .nameNotText
      else if c = ',' then
        advance
        match ← peekToken with
        | none => failHere (.ended .value)
        | some '"' => pure ()
        | some '\x7d' => failAhead .trailingComma
        | some _ => failAhead .nameNotText
      else
        failAhead .noObjectEnd
      advance
      some <$> string

/-- Read the colon behind the name of a member. -/
def colon : Reading Unit := do
  match ← peekToken with
  | none => failHere (.ended .object)
  | some ':' => advance
  | some _ => failAhead .noColon

/-- Read the end of a list. -/
def listEnd : Reading Unit := do
  match ← peekToken with
  | none => failHere (.ended .list)
  | some ']' => advance
  | some ',' =>
      advance
      match ← peekToken with
      | some ']' => failAhead .trailingComma
      | _ => failAhead .trailingText
  | some _ => failAhead .trailingText

/-- Read the end of an object. -/
def objectEnd : Reading Unit := do
  match ← peekToken with
  | none => failHere (.ended .object)
  | some '\x7d' => advance
  | some ',' => failAhead .trailingComma
  | some _ => failAhead .trailingText

/-! ## Values -/

/-- Read a string or a number, if there is one. -/
def scalar? : Reading (Option Json) := do
  match ← peekToken with
  | none => failHere (.ended .value)
  | some c =>
      if c = '"' then
        advance
        return some (.str (← string))
      else if c = '-' then
        advance
        return some (← number true)
      else if isDigit c then
        return some (← number false)
      else if c = 'n' then
        advance
        return some (← restOfNull)
      else if c = 't' then
        advance
        return some (← restOfTrue)
      else if c = 'f' then
        advance
        return some (← restOfFalse)
      else
        return none

mutual

/-- Read a value with all its members, given how deep it may be. -/
def valueFrom (fuel depth : Nat) : Reading Json := do
  match fuel with
  | 0 => failHere (.ended .value)
  | fuel + 1 =>
      match ← scalar? with
      | some v => return v
      | none =>
          match ← peek with
          | some '[' =>
              enter depth
              closedBy (itemsFrom fuel (depth - 1) true []) listEnd
          | some '\x7b' =>
              enter depth
              closedBy (membersFrom fuel (depth - 1) true []) objectEnd
          | _ => failAhead .noValue

/-- Read the items of a list; those read so far are given in reverse. -/
def itemsFrom (fuel depth : Nat) (first : Bool) (done : List Json) : Reading Json := do
  match fuel with
  | 0 => failHere (.ended .list)
  | fuel + 1 =>
      if ← nextItem first then
        let item ← valueFrom fuel depth
        itemsFrom fuel depth false (item :: done)
      else
        return .arr done.reverse

/-- Read the members of an object; those read so far are given in reverse. -/
def membersFrom (fuel depth : Nat) (first : Bool) (done : List (String × Json)) :
    Reading Json := do
  match fuel with
  | 0 => failHere (.ended .object)
  | fuel + 1 =>
      match ← nextName first with
      | some name =>
          colon
          let value ← valueFrom fuel depth
          membersFrom fuel depth false ((name, value) :: done)
      | none => return .obj done.reverse

end

/-- How many steps are enough to read what is left: every step takes a character, or goes from a
list or an object to what is in it. -/
def steps : Reading Nat := do
  return 2 * (← get).left + 2

/-- Read a value with all its members, given how deep it may be. -/
def value (depth : Nat) : Reading Json := do
  valueFrom (← steps) depth

/-! ## Passing over values -/

/-- Pass over a value that is no list or object, if there is one. -/
def skipScalar : Reading Bool := do
  match ← peekToken with
  | none => failHere (.ended .value)
  | some c =>
      if c = '"' then
        advance
        skipString
        return true
      else if c = '-' then
        advance
        skipNumber
        return true
      else if isDigit c then
        skipNumber
        return true
      else if c = 'n' ∨ c = 't' ∨ c = 'f' then
        let _ ← scalar?
        return true
      else
        return false

/-- Whether another item or member follows, given whether it is the first, the character at the
end, and the faults if the text ends or goes on otherwise. -/
def skipToNext (first : Bool) (last : Char) (ended other : Flaw) : Reading Bool := do
  match ← peekToken with
  | none => failHere ended
  | some c =>
      if c = last then
        advance
        return false
      else if first then
        return true
      else if c = ',' then
        advance
        return true
      else
        failAhead other

/-- Pass over the name of a member and its colon. -/
def skipName : Reading Unit := do
  match ← peekToken with
  | none => failHere (.ended .object)
  | some '"' => advance
  | some _ => failAhead .nameNotText
  skipString
  colon

mutual

/-- Pass over a value. -/
def skipFrom (fuel : Nat) : Reading Unit := do
  match fuel with
  | 0 => failHere (.ended .value)
  | fuel + 1 =>
      if !(← skipScalar) then
        match ← peek with
        | some '[' =>
            advance
            skipItemsFrom fuel true
        | some '\x7b' =>
            advance
            skipMembersFrom fuel true
        | _ => failAhead .noValue

/-- Pass over the items of a list and its end. -/
def skipItemsFrom (fuel : Nat) (first : Bool) : Reading Unit := do
  match fuel with
  | 0 => failHere (.ended .list)
  | fuel + 1 =>
      if ← skipToNext first ']' (.ended .list) .noListEnd then
        skipFrom fuel
        skipItemsFrom fuel false

/-- Pass over the members of an object and its end. -/
def skipMembersFrom (fuel : Nat) (first : Bool) : Reading Unit := do
  match fuel with
  | 0 => failHere (.ended .object)
  | fuel + 1 =>
      if ← skipToNext first '\x7d' (.ended .object) .noObjectEnd then
        skipName
        skipFrom fuel
        skipMembersFrom fuel false

end

/-- Pass over a value. -/
def skip : Reading Unit := do
  skipFrom (← steps)

/-! ## Whole texts -/

/-- Only blanks are left. -/
def textEnd : Reading Unit := do
  match ← peekToken with
  | none => return ()
  | some _ => failAhead .trailingText

/-- Read a whole text. -/
def whole (r : Reading α) (s : String) : Except Fault α :=
  run (do
    let a ← r
    textEnd
    return a) s

end Reading

/-- Read a whole text that may hold any value. -/
def read? (s : String) : Option Json :=
  match Reading.whole (Reading.value Reading.depthLimit) s with
  | .ok v => some v.settle
  | .error _ => none

end Json
end ProvisionWatch

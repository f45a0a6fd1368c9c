import ProvisionWatch.Json.Form

/-!
# Values of several kinds

A value of one of several kinds is written as an object with two members: one
names the kind and the other holds the content, whose form depends on the kind.
It may also be written as a list of the two.  When the content comes first it is
put by until the kind is known.
-/

namespace ProvisionWatch
namespace Json

open Reading

/-- The kinds of a value with the forms of their contents. -/
structure Choice where
  name : String
  kindMember : String
  contentMember : String
  kinds : List (String × Form)

/-- A kind and a content of its form. -/
structure Chosen where
  kind : String
  content : Json

namespace Choice

/-- The form of a kind, by its name. -/
def kindOf (c : Choice) (name : String) : Except Flaw (String × Form) :=
  match c.kinds.find? fun k => k.1 == name with
  | some k => .ok k
  | none => .error (.unknownName name (c.kinds.map Prod.fst))

/-- Read the name of a kind. -/
def kindName (c : Choice) : Reading (String × Form) :=
  Form.startingWith (· == '"') "variant identifier" do
    advance
    Form.accept (c.kindOf (← string))

/-- Read null. -/
def nothing : Reading Unit :=
  Form.startingWith (· == 'n') "unit" do
    advance
    let _ ← restOfNull

/-- Read a kind: its name, or an object whose only member has that name and is null. -/
def kind (c : Choice) (depth : Nat) : Reading (String × Form) := do
  match ← peekToken with
  | none => failHere (.ended .value)
  | some '"' => c.kindName
  | some '\x7b' =>
      enter depth
      let k ← c.kindName
      colon
      nothing
      match ← peekToken with
      | none => failHere (.ended .object)
      | some '\x7d' =>
          advance
          return k
      | some _ => failHere .noValue
  | some _ => failAhead .noValue

/-- Read members up to the next of the two that count, and give its name. -/
def nextOfBoth (c : Choice) (fuel : Nat) (first : Bool) : Reading (Option String) := do
  match fuel with
  | 0 => failHere (.ended .object)
  | fuel + 1 =>
      match ← nextName first with
      | none => return none
      | some name =>
          if name = c.kindMember ∨ name = c.contentMember then
            return some name
          else
            colon
            skip
            c.nextOfBoth fuel false

/-- Neither of the two members comes again. -/
def noMore (c : Choice) : Reading Unit := do
  match ← c.nextOfBoth (← steps) false with
  | none => return ()
  | some name => complain (.repeated name)

/-- Read the members of an object. -/
def members (c : Choice) (depth : Nat) : Reading Chosen := do
  match ← c.nextOfBoth (← steps) true with
  | none => complain (.missing c.kindMember)
  | some name =>
      if name = c.kindMember then
        colon
        let (kind, form) ← c.kind depth
        match ← c.nextOfBoth (← steps) false with
        | none => complain (.missing c.contentMember)
        | some name =>
            if name = c.kindMember then
              complain (.repeated name)
            else
              colon
              let content ← form.scan depth
              c.noMore
              return { kind := kind, content := content }
      else
        colon
        let content ← value depth
        match ← c.nextOfBoth (← steps) false with
        | none => complain (.missing c.kindMember)
        | some name =>
            if name = c.contentMember then
              complain (.repeated name)
            else
              colon
              let (kind, form) ← c.kind depth
              let content ← Form.accept (form.settle content)
              c.noMore
              return { kind := kind, content := content }

/-- Read the items of a list. -/
def items (c : Choice) (expected : String) (depth : Nat) : Reading Chosen := do
  if ← nextItem true then
    let (kind, form) ← c.kind depth
    if ← nextItem false then
      let content ← form.scan depth
      return { kind := kind, content := content }
    else
      complain (.wrongLength 1 expected)
  else
    complain (.wrongLength 0 expected)

/-- Read a value of one of the kinds, given how deep it may be. -/
def scan (c : Choice) (depth : Nat) : Reading Chosen :=
  let expected := "adjacently tagged enum " ++ c.name
  Form.startingWith Form.opens expected do
    let list := (← peek) == some '['
    enter depth
    if list then closedBy (c.items expected (depth - 1)) listEnd
    else closedBy (c.members (depth - 1)) objectEnd

/-- Read a whole text. -/
def read (c : Choice) (s : String) : Except Fault Chosen :=
  whole (c.scan depthLimit) s

end Choice
end Json
end ProvisionWatch

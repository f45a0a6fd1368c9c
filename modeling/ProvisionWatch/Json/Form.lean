import ProvisionWatch.Json.Reader

/-!
# Forms of values

A form says which values may stand in a place.  A value of a form is read from a
text, and the first flaw is noticed where it is; or a value that was read before
is settled, and the first flaw is noticed without a place.  Both give the value
with all that counts and nothing else: members that are not known are dropped.

A record may be written as an object or as a list of its members in their order.
An object has only names; of several members of one name the last counts, where
in a record they are a flaw.  A gathering record puts by the members that are not
its own and then looks among them for members of a second kind.
-/

namespace ProvisionWatch
namespace Json

open Reading

/-- Which values may stand in a place. -/
structure Form where
  /-- Read a value from a text, given how deep it may be. -/
  scan : Nat → Reading Json
  /-- Take a value that was read before. -/
  settle : Json → Except Flaw Json

/-- A member of a record or of an object. -/
structure Member where
  name : String
  form : Form
  /-- Whether it has to be there. -/
  needed : Bool
  /-- Whether its place in a list has to be there. -/
  placed : Bool

namespace Form

/-! ## Single values -/

/-- Complain about the next value, which is not what was expected. -/
def mismatch (expected : String) : Reading α := do
  match ← scalar? with
  | some v => complain (.wrongType v.found expected)
  | none =>
      match ← peek with
      | some '[' => complain (.wrongType .list expected)
      | some '\x7b' => complain (.wrongType .table expected)
      | _ => failAhead .noValue

/-- A reading that starts at the character of its choice; any other value is a mismatch. -/
def startingWith (p : Char → Bool) (expected : String) (r : Reading α) : Reading α :=
  located do
    match ← peekToken with
    | none => failHere (.ended .value)
    | some c => if p c then r else mismatch expected

/-- A value that fits, or a flaw without a place. -/
def accept (r : Except Flaw α) : Reading α :=
  match r with
  | .ok a => return a
  | .error flaw => complain flaw

/-- Any value. -/
def any : Form where
  scan depth := do return (← value depth).settle
  settle v := .ok v.settle

/-- A string that nothing is wrong with. -/
def settleText (expected : String) (wrong : String → Option Flaw) : Json → Except Flaw Json
  | .str s =>
      match wrong s with
      | none => .ok (.str s)
      | some flaw => .error flaw
  | v => .error (.wrongType v.found expected)

/-- A string, given what may be wrong with it. -/
def checked (expected : String) (wrong : String → Option Flaw) : Form where
  scan _ := startingWith (· == '"') expected do
    advance
    accept (settleText expected wrong (.str (← string)))
  settle := settleText expected wrong

/-- A string. -/
def text : Form :=
  checked "a string" fun _ => none

/-- A given string. -/
def exactly (expected : String) : Form :=
  checked "a string" fun s =>
    if s = expected then none else some (.wrongValue (.text s) expected)

/-- A truth value. -/
def settleTruth : Json → Except Flaw Json
  | .bool b => .ok (.bool b)
  | v => .error (.wrongType v.found "a boolean")

@[inherit_doc settleTruth]
def truth : Form where
  scan _ := startingWith (fun c => c == 't' || c == 'f') "a boolean" do
    accept (settleTruth ((← scalar?).getD .null))
  settle := settleTruth

/-- A whole number within bounds. -/
def settleWhole (least greatest : Int) (expected : String) : Json → Except Flaw Json
  | .int n =>
      if least ≤ n ∧ n ≤ greatest then .ok (.int n)
      else .error (.wrongValue (.whole n) expected)
  | v => .error (.wrongType v.found expected)

/-- A whole number within bounds, given the name of their range. -/
def wholeBetween (least greatest : Int) (expected : String) : Form where
  scan _ := startingWith (fun c => c == '-' || isDigit c) expected do
    accept (settleWhole least greatest expected ((← scalar?).getD .null))
  settle := settleWhole least greatest expected

/-- A value that may also be null. -/
def nullable (f : Form) : Form where
  scan depth := do
    match ← peekToken with
    | some 'n' =>
        advance
        restOfNull
    | _ => f.scan depth
  settle
    | .null => .ok .null
    | v => f.settle v

/-! ## Lists and tables -/

/-- Read the items of a list; those read so far are given in reverse. -/
def scanItems (item : Reading Json) (fuel : Nat) (first : Bool) (done : List Json) :
    Reading Json := do
  match fuel with
  | 0 => failHere (.ended .list)
  | fuel + 1 =>
      if ← nextItem first then
        let v ← item
        scanItems item fuel false (v :: done)
      else
        return .arr done.reverse

/-- A list. -/
def list (item : Form) : Form where
  scan depth := startingWith (· == '[') "a sequence" do
    enter depth
    closedBy (scanItems (item.scan (depth - 1)) (← steps) true []) listEnd
  settle
    | .arr items => (items.mapM item.settle).map Json.arr
    | v => .error (.wrongType v.found "a sequence")

/-- Settle the values of a table behind those that are settled already. -/
def settleValues (settle : Json → Except Flaw Json) (done : List (String × Json)) :
    List (String × Json) → Except Flaw (List (String × Json))
  | [] => .ok done
  | (name, v) :: rest => do
      let v ← settle v
      settleValues settle (insert name v done) rest

/-- Read the values of a table behind those that were read already. -/
def scanValues (value : Reading Json) (fuel : Nat) (first : Bool) (done : List (String × Json)) :
    Reading Json := do
  match fuel with
  | 0 => failHere (.ended .object)
  | fuel + 1 =>
      match ← nextName first with
      | some name =>
          colon
          let v ← value
          scanValues value fuel false (insert name v done)
      | none => return .obj done

/-- Values of one form by their names. -/
def table (value : Form) : Form where
  scan depth := startingWith (· == '\x7b') "a map" do
    enter depth
    closedBy (scanValues (value.scan (depth - 1)) (← steps) true []) objectEnd
  settle
    | .obj members => (settleValues value.settle [] members).map Json.obj
    | v => .error (.wrongType v.found "a map")

/-! ## Members by name -/

/-- The member with a name. -/
def find? (members : List Member) (name : String) : Option Member :=
  members.find? fun m => m.name == name

/-- The flaw of members that are there: the first that is needed is missing. -/
def lacking (members : List Member) (there : List (String × Json)) : Except Flaw Unit :=
  match members.find? fun m => m.needed && (lookup m.name there).isNone with
  | some m => .error (.missing m.name)
  | none => .ok ()

/-- The flaw of a name that is there already, where a name may be there only once. -/
def again (once : Bool) (name : String) (there : List (String × Json)) : Except Flaw Unit :=
  if once && (lookup name there).isSome then .error (.repeated name) else .ok ()

/-- Settle the members of an object behind those that are settled already. -/
def settleMembers (once : Bool) (members : List Member) (done : List (String × Json)) :
    List (String × Json) → Except Flaw (List (String × Json))
  | [] => do
      lacking members done
      return done
  | (name, v) :: rest =>
      match find? members name with
      | none => settleMembers once members done rest
      | some m => do
          again once name done
          let v ← m.form.settle v
          settleMembers once members (insert name v done) rest

/-- Read the members of an object behind those that were read already.  What is done with a
member that is not known is given; `aside` are those that were put by, in reverse. -/
def scanMembers (once : Bool) (members : List Member) (other : Reading (Option Json))
    (fuel depth : Nat) (first : Bool) (done aside : List (String × Json)) :
    Reading (List (String × Json) × List (String × Json)) := do
  match fuel with
  | 0 => failHere (.ended .object)
  | fuel + 1 =>
      match ← nextName first with
      | some name =>
          match find? members name with
          | some m =>
              accept (again once name done)
              colon
              let v ← m.form.scan depth
              scanMembers once members other fuel depth false (insert name v done) aside
          | none =>
              colon
              let v ← other
              let aside := v.toList.map (fun v => (name, v)) ++ aside
              scanMembers once members other fuel depth false done aside
      | none =>
          accept (lacking members done)
          return (done, aside.reverse)

/-- Pass over a member that is not known. -/
def drop : Reading (Option Json) := do
  skip
  return none

/-! ## Records -/

/-- So many things. -/
def counted (n : Nat) (thing : String) : String :=
  Text.natText n ++ " " ++ thing ++ (if n = 1 then "" else "s")

/-- What is expected where a record is. -/
def recordName (name : String) : String :=
  "struct " ++ name

/-- The flaw of a list that is too short for a record with so many members. -/
def tooShort (name : String) (count length : Nat) : Flaw :=
  .wrongLength length (recordName name ++ " with " ++ counted count "element")

/-- Read the members of a record from a list; those read so far are given in reverse. -/
def scanPlaces (short : Nat → Flaw) (depth : Nat) (done : List Json) :
    List Member → Reading Json
  | [] => return .arr done.reverse
  | m :: rest => do
      if ← nextItem done.isEmpty then
        let v ← m.form.scan depth
        scanPlaces short depth (v :: done) rest
      else if m.placed then
        complain (short done.length)
      else
        scanPlaces short depth done rest

/-- Settle the members of a record from a list; those settled so far are given in reverse. -/
def settlePlaces (short : Nat → Flaw) (done : List Json) :
    List Member → List Json → Except Flaw Json
  | [], [] => .ok (.arr done.reverse)
  | [], more =>
      .error (.wrongLength (done.length + more.length)
        (counted done.length "element" ++ " in sequence"))
  | m :: rest, [] =>
      if m.placed then .error (short done.length) else settlePlaces short done rest []
  | m :: rest, v :: more => do
      let v ← m.form.settle v
      settlePlaces short (v :: done) rest more

/-- Whether a character starts a list or an object. -/
def opens (c : Char) : Bool :=
  c == '[' || c == '\x7b'

/-- A record. -/
def record (name : String) (members : List Member) : Form where
  scan depth := startingWith opens (recordName name) do
    let list := (← peek) == some '['
    enter depth
    if list then
      closedBy (scanPlaces (tooShort name members.length) (depth - 1) [] members) listEnd
    else
      let r := scanMembers true members drop (← steps) (depth - 1) true [] []
      return .obj (← closedBy r objectEnd).1
  settle
    | .arr items => settlePlaces (tooShort name members.length) [] members items
    | .obj given => (settleMembers true members [] given).map Json.obj
    | v => .error (.wrongType v.found (recordName name))

/-- An object with known members. -/
def object (name : String) (members : List Member) : Form where
  scan depth := startingWith opens name do
    let list := (← peek) == some '['
    enter depth
    if list then
      closedBy (complain (.wrongType .list name)) listEnd
    else
      let r := scanMembers false members drop (← steps) (depth - 1) true [] []
      return .obj (← closedBy r objectEnd).1
  settle
    | .obj given => (settleMembers false members [] given).map Json.obj
    | v => .error (.wrongType v.found name)

/-- A record that looks for its second members among those that are not its first. -/
def gathering (name : String) (members second : List Member) : Form where
  scan depth := startingWith (· == '\x7b') (recordName name) do
    enter depth
    let other : Reading (Option Json) := some <$> value (depth - 1)
    let r : Reading (List (String × Json)) := do
      let (done, aside) ← scanMembers true members other (← steps) (depth - 1) true [] []
      return done ++ (← accept (settleMembers true second [] aside))
    return .obj (← closedBy r objectEnd)
  settle
    | .obj given => do
        let done ← settleMembers true members [] given
        let aside := given.filter fun m => (find? members m.1).isNone
        return .obj (done ++ (← settleMembers true second [] aside))
    | v => .error (.wrongType v.found (recordName name))

/-! ## Reading texts -/

/-- Read a whole text. -/
def read (f : Form) (s : String) : Except Fault Json :=
  whole (f.scan depthLimit) s

end Form
end Json
end ProvisionWatch

import ProvisionWatch.Json.Basic

/-!
# Codecs for records

A record is read from an object by the names of its members, or from a list by
their places.  Members that are not known are ignored in an object; a list may
be shorter than the record but not longer.  A member may be required, may have
a default when it is missing, and may allow null.

Main results:

- Theorem `nullable_encodeOption`: an optional value reads back from what it is
  written as, if the value itself does and is never written as null.
- Theorem `list_encode`: a list reads back if its items do.
-/

namespace ProvisionWatch
namespace Json

/-! ## Records -/

/-- The members of a record, by name or by place. -/
inductive Layout where
  | named (members : List (String × Json))
  | placed (items : List Json)

namespace Layout

/-- The member of a record with a place and a name. -/
def member? (place : Nat) (name : String) : Layout → Option Json
  | .named members => lookup name members
  | .placed items => items[place]?

/-- A member that has to be there. -/
def required (layout : Layout) (place : Nat) (name : String) (decode : Json → Option α) :
    Option α :=
  (layout.member? place name).bind decode

/-- A member that stands for a default when it is missing. -/
def orElse (layout : Layout) (place : Nat) (name : String) (default : α)
    (decode : Json → Option α) : Option α :=
  match layout.member? place name with
  | none => some default
  | some v => decode v

end Layout

/-- The members of a record with so many places. -/
def layout (places : Nat) : Json → Option Layout
  | .obj members => some (.named members)
  | .arr items => if items.length ≤ places then some (.placed items) else none
  | _ => none

/-- The members of a record that can only be an object. -/
def objectLayout : Json → Option Layout
  | .obj members => some (.named members)
  | _ => none

/-! ## Values -/

/-- A value or null. -/
def nullable (decode : Json → Option α) : Json → Option (Option α)
  | .null => some none
  | v => (decode v).map some

/-- A list of values. -/
def list (decode : Json → Option α) : Json → Option (List α)
  | .arr items => items.mapM decode
  | _ => none

/-- A string by its name. -/
def namedText? : String × Json → Option (String × String)
  | (name, .str text) => some (name, text)
  | _ => none

/-- Strings by their names. -/
def texts? : Json → Option (List (String × String))
  | .obj members => members.mapM namedText?
  | _ => none

/-- A truth value. -/
def bool? : Json → Option Bool
  | .bool b => some b
  | _ => none

/-- A whole number within bounds. -/
def intBetween (least greatest : Int) : Json → Option Int
  | .int n => if least ≤ n ∧ n ≤ greatest then some n else none
  | _ => none

/-- A name out of a fixed set: a string, or an object whose only member has that name and is
null. -/
def nameOf (ofText : String → Option α) : Json → Option α
  | .str s => ofText s
  | .obj [(name, .null)] => ofText name
  | _ => none

/-! ## Writing -/

/-- An optional value; null when it is absent. -/
def encodeOption (encode : α → Json) : Option α → Json
  | none => .null
  | some a => encode a

/-- Strings by their names as a value. -/
def ofTexts (texts : List (String × String)) : Json :=
  .obj (texts.map fun (name, text) => (name, .str text))

/-- A member that is left out when its value is absent. -/
def optionalMember (name : String) (encode : α → Json) : Option α → List (String × Json)
  | none => []
  | some a => [(name, encode a)]

/-- What may be absent reads back if it reads back when it is there and is never null then. -/
theorem nullable_encodeOption {encode : α → Json} {decode : Json → Option α}
    (hread : ∀ a, decode (encode a) = some a) (hnull : ∀ a, encode a ≠ .null) (o : Option α) :
    nullable decode (encodeOption encode o) = some o := by
  cases o with
  | none => rfl
  | some a =>
      have hn := hnull a
      simp only [encodeOption]
      unfold nullable
      split
      · rename_i h
        exact absurd h hn
      · simp [hread]

/-- A list reads back if its items do. -/
theorem list_encode {encode : α → Json} {decode : Json → Option α}
    (hread : ∀ a, decode (encode a) = some a) (items : List α) :
    list decode (.arr (items.map encode)) = some items := by
  simp only [list]
  induction items with
  | nil => rfl
  | cons a rest ih => simp [List.mapM_cons, hread, ih]

end Json
end ProvisionWatch

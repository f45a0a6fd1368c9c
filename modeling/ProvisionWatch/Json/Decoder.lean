import ProvisionWatch.Json.Codec
import ProvisionWatch.Json.Form

/-!
# Decoders

A decoder knows both how a value is written and what it stands for.  A text is
read by its form first, so that what is wrong with it is noticed where it is, and
then decoded; a value can be decoded by itself.

The members of a record are decoded one after the other; their order is that of
the members in a list.
-/

namespace ProvisionWatch
namespace Json

/-- How a value is written, and what it stands for. -/
structure Decoder (α : Type) where
  form : Form
  decode : Json → Option α

/-- The members of a record or an object one after the other, and what they stand for together.
The decoding is given the place of the first of them. -/
structure Fields (α : Type) where
  members : List Member
  decode : Nat → Layout → Option α

namespace Fields

/-- No member. -/
def pure (a : α) : Fields α :=
  { members := [], decode := fun _ _ => some a }

/-- Something else that the same members stand for. -/
def map (f : α → β) (x : Fields α) : Fields β :=
  { members := x.members, decode := fun n l => (x.decode n l).map f }

/-- First some members and then others. -/
def seq (f : Fields (α → β)) (x : Fields α) : Fields β :=
  { members := f.members ++ x.members
    decode := fun n l =>
      (f.decode n l).bind fun g => (x.decode (n + f.members.length) l).map g }

instance : Applicative Fields where
  pure := pure
  map := map
  seq f x := seq f (x ())

/-- A member that has to be there. -/
def required (name : String) (d : Decoder α) : Fields α :=
  { members := [{ name := name, form := d.form, needed := true, placed := true }]
    decode := fun n l => l.required n name d.decode }

/-- A member that stands for a default when it is missing. -/
def orElse (name : String) (default : α) (d : Decoder α) : Fields α :=
  { members := [{ name := name, form := d.form, needed := false, placed := false }]
    decode := fun n l => l.orElse n name default d.decode }

/-- A member that may be missing or null. -/
def optional (name : String) (d : Decoder α) : Fields (Option α) :=
  { members := [{ name := name, form := d.form.nullable, needed := false, placed := false }]
    decode := fun n l => l.orElse n name none (nullable d.decode) }

/-- A member that may be missing or null in an object, but in a list has to be there. -/
def placed (name : String) (d : Decoder α) : Fields (Option α) :=
  { members := [{ name := name, form := d.form.nullable, needed := false, placed := true }]
    decode := fun n l =>
      match l with
      | .named _ => l.orElse n name none (nullable d.decode)
      | .placed _ => l.required n name (nullable d.decode) }

end Fields

namespace Decoder

/-! ## Values -/

/-- Something else that the same values stand for. -/
def map (f : α → β) (d : Decoder α) : Decoder β :=
  { form := d.form, decode := fun v => (d.decode v).map f }

/-- Any value. -/
def any : Decoder Json :=
  { form := .any, decode := some }

/-- A string. -/
def text : Decoder String :=
  { form := .text, decode := text? }

/-- A given string. -/
def exactly (expected : String) : Decoder Unit :=
  { form := .exactly expected
    decode := fun v => if v.text? = some expected then some () else none }

/-- A truth value. -/
def truth : Decoder Bool :=
  { form := .truth, decode := bool? }

/-- A whole number within bounds, given the name of their range. -/
def wholeBetween (least greatest : Int) (name : String) : Decoder Int :=
  { form := .wholeBetween least greatest name, decode := intBetween least greatest }

/-- A whole number of 64 bits. -/
def whole64 : Decoder Int :=
  wholeBetween (-9223372036854775808) 9223372036854775807 "i64"

/-- A whole number of 32 bits. -/
def whole32 : Decoder Int :=
  wholeBetween (-2147483648) 2147483647 "i32"

/-- A number of 16 bits without a sign. -/
def natural16 : Decoder Nat :=
  (wholeBetween 0 65535 "u16").map Int.toNat

/-- A list. -/
def list (d : Decoder α) : Decoder (List α) :=
  { form := .list d.form, decode := Json.list d.decode }

/-- A value or null. -/
def nullable (d : Decoder α) : Decoder (Option α) :=
  { form := d.form.nullable, decode := Json.nullable d.decode }

/-- Strings by their names. -/
def texts : Decoder (List (String × String)) :=
  { form := .table .text, decode := texts? }

/-! ## Records -/

/-- A record. -/
def record (name : String) (fields : Fields α) : Decoder α :=
  { form := .record name fields.members
    decode := fun v => (layout fields.members.length v).bind (fields.decode 0) }

/-- An object with known members. -/
def object (name : String) (fields : Fields α) : Decoder α :=
  { form := .object name fields.members
    decode := fun v => (objectLayout v).bind (fields.decode 0) }

/-- A record that looks for its second members among those that are not its first. -/
def gathering (name : String) (first : Fields α) (second : Fields β) : Decoder (α × β) :=
  { form := .gathering name first.members second.members
    decode := fun v => (objectLayout v).bind fun l => do
      return (← first.decode 0 l, ← second.decode 0 l) }

/-! ## Texts -/

/-- Read a whole text. -/
def read (d : Decoder α) (s : String) : Except Fault α :=
  match d.form.read s with
  | .error fault => .error fault
  | .ok v =>
      match d.decode v with
      | some a => .ok a
      | none => .error { flaw := .unreadable "invalid value", place := none }

end Decoder
end Json
end ProvisionWatch

/-!
# JSON values

The value type shared by every codec.  Whole numbers that fit 64 bits are kept
exactly; every other number is a decimal fraction.  An object is the list of its
members in order.

Main results:

- Theorem `lookup_insert`: storing one member leaves the others alone.
- Theorem `lookup_settleMembers`: of several members of one name the last is left.
-/

namespace ProvisionWatch

/-- A JSON value. -/
inductive Json where
  | null
  | bool (value : Bool)
  | int (value : Int)
  /-- The decimal fraction `digits * 10 ^ exponent`, or its opposite. -/
  | real (negative : Bool) (digits : Nat) (exponent : Int)
  | str (text : String)
  | arr (items : List Json)
  | obj (members : List (String × Json))
deriving Inhabited

namespace Json

/-- The least and the greatest number that is kept exactly. -/
def leastWhole : Int := -9223372036854775808

@[inherit_doc leastWhole]
def greatestWhole : Int := 18446744073709551615

/-- The member of an object with the given name. -/
@[simp]
def lookup (name : String) : List (String × Json) → Option Json
  | [] => none
  | (key, value) :: rest => if key = name then some value else lookup name rest

/-- Store a member: in the place of an earlier one of that name, or at the end. -/
@[simp]
def insert (name : String) (value : Json) : List (String × Json) → List (String × Json)
  | [] => [(name, value)]
  | (key, old) :: rest =>
      if key = name then (key, value) :: rest else (key, old) :: insert name value rest

/-- The member of a value that is an object. -/
def member? (name : String) : Json → Option Json
  | .obj members => lookup name members
  | _ => none

/-- The text of a value that is a string. -/
def text? : Json → Option String
  | .str s => some s
  | _ => none

/-! ## Members of one name -/

mutual

/-- A value in which of several members of one name only the last is left, in the place of the
first. -/
def settle : Json → Json
  | .arr items => .arr (settleItems items)
  | .obj members => .obj (settleMembers [] members)
  | v => v

/-- The items of a list, each settled. -/
def settleItems : List Json → List Json
  | [] => []
  | item :: rest => item.settle :: settleItems rest

/-- The members of an object, each settled, behind those that are settled already. -/
def settleMembers (done : List (String × Json)) : List (String × Json) → List (String × Json)
  | [] => done
  | (name, value) :: rest => settleMembers (insert name value.settle done) rest

end

/-- A member that was stored is found, and the others are found as before. -/
@[simp, grind =]
theorem lookup_insert (name other : String) (value : Json) (members : List (String × Json)) :
    lookup other (insert name value members) =
      if name = other then some value else lookup other members := by
  induction members with
  | nil => simp
  | cons m rest ih =>
      obtain ⟨key, old⟩ := m
      by_cases hk : key = name
      · by_cases ho : name = other
        · simp [hk, ho]
        · simp [hk, ho]
      · by_cases ho : key = other
        · subst ho
          simp [hk, Ne.symm hk]
        · simp [hk, ho, ih]

/-- Of several members of one name the last is left. -/
theorem lookup_settleMembers (name : String) (done rest : List (String × Json)) :
    lookup name (settleMembers done rest) =
      (((rest.filter fun m => m.1 = name).getLast?.map fun m => m.2.settle).or
        (lookup name done)) := by
  induction rest generalizing done with
  | nil => simp [settleMembers]
  | cons m rest ih =>
      obtain ⟨key, value⟩ := m
      rw [settleMembers, ih, lookup_insert]
      by_cases h : key = name
      · cases hl : (rest.filter fun m => m.1 = name).getLast? <;>
          simp [h, hl, List.getLast?_cons]
      · simp [h]

end Json
end ProvisionWatch

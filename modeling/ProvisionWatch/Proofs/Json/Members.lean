import ProvisionWatch.Json.Codec

/-!
# Members of records

A record that was written is read member by member: a member is found under its
own name, and one that is left out when it is absent is read as absent.  What was
read where null is allowed, and is not null, was read as it is.

Main results:

- Theorem `lookup_optionalMember`: what is found where a member may be left out.
- Theorems `Layout.required_of_lookup`, `Layout.orElse_of_lookup` and
  `Layout.orElse_of_present`: members read back.
- Theorems `Layout.exists_of_required` and `Layout.exists_of_orElse`: what is
  read of a member was read from some value.
-/

namespace ProvisionWatch
namespace Json

/-! ## Reading what was written -/

@[simp]
theorem lookup_append (name : String) (members members' : List (String × Json)) :
    lookup name (members ++ members') = (lookup name members).or (lookup name members') := by
  induction members with
  | nil => rfl
  | cons m rest ih =>
      by_cases h : m.1 = name
      · simp [h]
      · simp [h, ih]

/-- A member that may be left out is found under its own name only. -/
@[simp]
theorem lookup_optionalMember (name other : String) (encode : α → Json) (o : Option α) :
    lookup name (optionalMember other encode o) = if other = name then o.map encode else none := by
  cases o with
  | none => simp [optionalMember]
  | some a => simp [optionalMember]

/-- A member that is left out when it is absent reads back. -/
theorem Layout.orElse_of_lookup {members : List (String × Json)} {place : Nat} {name : String}
    {encode : α → Json} {decode : Json → Option α} {o : Option α}
    (hlookup : lookup name members = o.map encode)
    (hread : ∀ a ∈ o, decode (encode a) = some a) (hnull : ∀ a, encode a ≠ .null) :
    (Layout.named members).orElse place name none (nullable decode) = some o := by
  unfold Layout.orElse Layout.member?
  cases o with
  | none => simp [hlookup]
  | some a =>
      have ha : nullable decode (encode a) = some (some a) := by
        unfold nullable
        split
        · rename_i h
          exact absurd h (hnull a)
        · rw [hread a rfl]
          rfl
      simp [hlookup, ha]

/-- A member that has to be there reads back. -/
theorem Layout.required_of_lookup {members : List (String × Json)} {place : Nat} {name : String}
    {v : Json} {decode : Json → Option α} {a : α} (hlookup : lookup name members = some v)
    (hread : decode v = some a) : (Layout.named members).required place name decode = some a := by
  simp [Layout.required, Layout.member?, hlookup, hread]

/-- A member that has a default and is there reads back. -/
theorem Layout.orElse_of_present {members : List (String × Json)} {place : Nat} {name : String}
    {v : Json} {default : α} {decode : Json → Option α} {a : α}
    (hlookup : lookup name members = some v) (hread : decode v = some a) :
    (Layout.named members).orElse place name default decode = some a := by
  simp [Layout.orElse, Layout.member?, hlookup, hread]

/-- A text that is left out when it is absent reads back. -/
theorem Layout.orElse_text {members : List (String × Json)} {name : String}
    {o : Option String} (h : lookup name members = o.map Json.str) (place : Nat) :
    (Layout.named members).orElse place name none (nullable Json.text?) = some o :=
  Layout.orElse_of_lookup h (fun _ _ => rfl) fun _ => nofun

/-- An optional text is written as it is read. -/
@[simp]
theorem nullable_text (o : Option String) : nullable text? (encodeOption Json.str o) = some o :=
  @nullable_encodeOption _ Json.str text? (fun _ => rfl) (fun _ => nofun) o

/-! ## What was read -/

/-- What can be null is never read as a value that is null. -/
theorem nullable_some_ne {v : Json} : nullable some v ≠ some (some .null) := by
  cases v <;> simp [nullable]

/-- A value that is read where null is allowed, and is not null, is read as it is. -/
theorem some_of_nullable {decode : Json → Option α} {v : Json} {a : α}
    (h : nullable decode v = some (some a)) : decode v = some a := by
  unfold nullable at h
  split at h
  · cases h
  · simpa using h

theorem Layout.exists_of_required {l : Layout} {place : Nat} {name : String}
    {decode : Json → Option α} {a : α} (h : l.required place name decode = some a) :
    ∃ v, decode v = some a := by
  obtain ⟨v, -, hv⟩ := Option.bind_eq_some_iff.mp h
  exact ⟨v, hv⟩

/-- A member that is there was read from a value. -/
theorem Layout.exists_of_orElse {l : Layout} {place : Nat} {name : String}
    {decode : Json → Option α} {a : α}
    (h : l.orElse place name none (nullable decode) = some (some a)) : ∃ v, decode v = some a := by
  unfold Layout.orElse at h
  split at h
  · cases h
  · exact ⟨_, some_of_nullable h⟩

end Json
end ProvisionWatch

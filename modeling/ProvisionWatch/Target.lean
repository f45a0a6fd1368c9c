import ProvisionWatch.Text.Blank
import ProvisionWatch.Text.Decimal
import ProvisionWatch.Text.Split
import ProvisionWatch.Time.Span

/-!
# Targets

A deployment is named by its namespace and its name, written with a slash in
between.  A request may add how long it wants to watch.

Main results:

- Theorem `Target.check_eq_none_iff`: a target is sound exactly when both of
  its parts have a character that is not blank.
-/

namespace ProvisionWatch

/-! ## Targets -/

/-- Namespace and name of a deployment. -/
structure Target where
  ns : String
  name : String
deriving DecidableEq, Repr, Inhabited

/-- What can be wrong with a request. -/
inductive RequestError where
  | missingNamespace
  | missingName
  /-- The text is not a namespace, a slash and a name. -/
  | shape (raw : String)
  /-- A parameter that is not known. -/
  | parameter (pair : String)
  /-- A timeout that is no positive number of seconds. -/
  | timeout (value : String)
  /-- Anything else that is found wrong with a target. -/
  | other (detail : String)
deriving DecidableEq, Repr

/-- What is wrong with a target, in words. -/
def RequestError.detail : RequestError → String
  | missingNamespace => "namespace is required"
  | missingName => "name is required"
  | shape raw => "'" ++ raw ++ "' must have the form <namespace>/<name>"
  | parameter pair => "unsupported parameter '" ++ pair ++ "'"
  | timeout value => value
  | other detail => detail

namespace Target

/-- The target as it is written. -/
def text (t : Target) : String :=
  t.ns ++ "/" ++ t.name

/-- What is wrong with a target, if anything. -/
def check (t : Target) : Option RequestError :=
  if Text.isBlankText t.ns then some .missingNamespace
  else if Text.isBlankText t.name then some .missingName
  else none

/-- Targets in the order of their namespaces, then of their names. -/
def noLater (a b : Target) : Bool :=
  a.ns < b.ns || (a.ns == b.ns && (a.name < b.name || a.name == b.name))

/-- A target is sound exactly when neither of its parts is blank. -/
theorem check_eq_none_iff (t : Target) :
    t.check = none ↔ Text.isBlankText t.ns = false ∧ Text.isBlankText t.name = false := by
  cases hns : Text.isBlankText t.ns <;> cases hname : Text.isBlankText t.name <;>
    simp [check, hns, hname]

end Target

/-! ## Requests -/

/-- A target and how long it shall be watched. -/
structure Request where
  target : Target
  timeout : Option Duration
deriving DecidableEq, Repr

namespace Request

/-- The greatest number of seconds that can be asked for. -/
def greatestTimeout : Int := 9223372036854775807

/-- Read a timeout: a positive number of seconds. -/
def readTimeout (value : String) : Except RequestError Duration :=
  match Text.readSigned (Text.trimChars value.toList) with
  | some seconds =>
      if 0 < seconds ∧ seconds ≤ greatestTimeout then .ok (.ofSeconds seconds.toNat)
      else .error (.timeout value)
  | none => .error (.timeout value)

/-- Read the parameters; of several timeouts the last one counts. -/
def readParameters (timeout : Option Duration) : List (List Char) →
    Except RequestError (Option Duration)
  | [] => .ok timeout
  | pair :: rest =>
      if pair.isEmpty then
        readParameters timeout rest
      else
        match Text.cut '=' pair with
        | some (name, value) =>
            if name = "timeout".toList then
              match readTimeout (String.ofList value) with
              | .ok timeout => readParameters (some timeout) rest
              | .error e => .error e
            else
              .error (.parameter (String.ofList pair))
        | none => .error (.parameter (String.ofList pair))

/-- Drop the blanks, then the slashes, at both ends of a path. -/
def trimPath (path : List Char) : List Char :=
  Text.dropEndWhile (· == '/') ((Text.trimChars path).dropWhile (· == '/'))

/-- Read a target and its parameters. -/
def read (raw : String) : Except RequestError Request :=
  let (path, query) := match Text.cut '?' raw.toList with
    | some (path, query) => (path, Text.pieces '&' query)
    | none => (raw.toList, [])
  match Text.pieces '/' (trimPath path) with
  | [ns, name] =>
      let target : Target := { ns := String.ofList ns, name := String.ofList name }
      match target.check with
      | some e => .error e
      | none => (readParameters none query).map fun timeout => ⟨target, timeout⟩
  | _ => .error (.shape raw)

end Request
end ProvisionWatch

import ProvisionWatch.Json.Codec

/-!
# Phases, severities and sources

The coarse lifecycle of a cluster deployment, how urgent a piece of progress
is, and where it was learnt.  Each of the three is a short list of names.

Main results:

- Theorem `Phase.isTerminal_iff`: only `Ready` and `Failed` end a deployment.
- Theorems `Phase.ofText?_text`, `Severity.ofText?_text` and
  `Source.ofText?_text`: each name reads back.
-/

namespace ProvisionWatch

/-! ## Phases -/

/-- How far the provisioning of a cluster has come. -/
inductive Phase where
  | unknown
  | initializing
  | provisioning
  | bootstrapping
  | scaling
  | installing
  | ready
  | failed
deriving DecidableEq, Repr, Inhabited

namespace Phase

/-- Whether no progress can follow. -/
def isTerminal : Phase → Bool
  | ready | failed => true
  | _ => false

/-- The name of a phase. -/
def text : Phase → String
  | unknown => "Unknown"
  | initializing => "Initializing"
  | provisioning => "Provisioning"
  | bootstrapping => "Bootstrapping"
  | scaling => "Scaling"
  | installing => "Installing"
  | ready => "Ready"
  | failed => "Failed"

/-- The phase with a name. -/
def ofText? : String → Option Phase
  | "Unknown" => some unknown
  | "Initializing" => some initializing
  | "Provisioning" => some provisioning
  | "Bootstrapping" => some bootstrapping
  | "Scaling" => some scaling
  | "Installing" => some installing
  | "Ready" => some ready
  | "Failed" => some failed
  | _ => none

/-- The phase as a JSON value. -/
def encode (p : Phase) : Json :=
  .str p.text

/-- Read a phase. -/
def decode : Json → Option Phase :=
  Json.nameOf ofText?

/-- A deployment has come to its end when it is ready or has failed. -/
@[grind =]
theorem isTerminal_iff (p : Phase) : p.isTerminal = true ↔ p = ready ∨ p = failed := by
  cases p <;> simp [isTerminal]

/-- A phase is told by its text. -/
@[simp]
theorem ofText?_text (p : Phase) : ofText? p.text = some p := by
  cases p <;> rfl

/-- A phase reads back. -/
@[simp]
theorem decode_encode (p : Phase) : decode p.encode = some p :=
  ofText?_text p

end Phase

/-! ## Severities -/

/-- How urgent a piece of progress is for the observer. -/
inductive Severity where
  | info
  | warning
  | error
deriving DecidableEq, Repr, Inhabited

namespace Severity

/-- The name of a severity. -/
def text : Severity → String
  | info => "info"
  | warning => "warning"
  | error => "error"

/-- The severity with a name. -/
def ofText? : String → Option Severity
  | "info" => some info
  | "warning" => some warning
  | "error" => some error
  | _ => none

/-- The severity as a JSON value. -/
def encode (s : Severity) : Json :=
  .str s.text

/-- Read a severity. -/
def decode : Json → Option Severity :=
  Json.nameOf ofText?

/-- A severity is told by its text. -/
@[simp]
theorem ofText?_text (s : Severity) : ofText? s.text = some s := by
  cases s <;> rfl

/-- A severity reads back. -/
@[simp]
theorem decode_encode (s : Severity) : decode s.encode = some s :=
  ofText?_text s

end Severity

/-! ## Sources -/

/-- Where a piece of progress was learnt. -/
inductive Source where
  | condition
  | event
  | log
  | system
deriving DecidableEq, Repr, Inhabited

namespace Source

/-- The name of a source. -/
def text : Source → String
  | condition => "condition"
  | event => "event"
  | log => "log"
  | system => "system"

/-- The source with a name. -/
def ofText? : String → Option Source
  | "condition" => some condition
  | "event" => some event
  | "log" => some log
  | "system" => some system
  | _ => none

/-- The source as a JSON value. -/
def encode (s : Source) : Json :=
  .str s.text

/-- Read a source. -/
def decode : Json → Option Source :=
  Json.nameOf ofText?

/-- A source is told by its text. -/
@[simp]
theorem ofText?_text (s : Source) : ofText? s.text = some s := by
  cases s <;> rfl

/-- A source reads back. -/
@[simp]
theorem decode_encode (s : Source) : decode s.encode = some s :=
  ofText?_text s

end Source
end ProvisionWatch

import ProvisionWatch.MonitorError
import ProvisionWatch.Pattern.Reader

/-!
# Allow-lists

Which namespaces may be read: those in which one of the patterns occurs, and
every one if there are no patterns.  A pattern is wrapped so that it has to
describe the whole namespace, and it is the wrapped text that is read.

Main results:

- Theorem `authorize_eq_none_iff`: a refusal names the namespace.
-/

namespace ProvisionWatch

/-- The patterns of the namespaces that may be read. -/
structure AllowList where
  patterns : List Pattern
deriving DecidableEq, Repr

namespace AllowList

/-- The text of a pattern that is tied to both ends of a namespace. -/
def wrapped (pattern : String) : String :=
  "^(?:" ++ pattern ++ ")$"

/-- Read patterns, if all of them are well formed. -/
def read? (patterns : List String) : Option AllowList :=
  (patterns.mapM fun p => Pattern.read? (wrapped p)).map AllowList.mk

/-- The list that admits every namespace. -/
def all : AllowList :=
  { patterns := [] }

/-- Whether a namespace may be read. -/
def admits (l : AllowList) (ns : String) : Bool :=
  l.patterns.isEmpty || l.patterns.any fun p => p.occursIn ns

/-- Why a namespace may not be read, if it may not. -/
def authorize (l : AllowList) (ns : String) : Option MonitorError :=
  if l.admits ns then none else some (.unauthorized ns)

/-- Who may read is not turned away. -/
theorem authorize_eq_none_iff (l : AllowList) (ns : String) :
    l.authorize ns = none ↔ l.admits ns = true := by
  cases h : l.admits ns <;> simp [authorize, h]

end AllowList
end ProvisionWatch

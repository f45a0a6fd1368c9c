import ProvisionWatch.Quota
import ProvisionWatch.Target
import ProvisionWatch.Watch

/-!
# Errors of the monitor

Why a call of the monitor fails.  Each error has a label for the metrics and a
text for people.
-/

namespace ProvisionWatch

/-- An exhausted quota in words. -/
def CapacityError.text : CapacityError → String
  | callerLimit caller limit =>
      "caller '" ++ caller ++ "' already holds the maximum of " ++ Text.natText limit ++
        " subscriptions"
  | globalLimit limit => "process-wide subscription limit of " ++ Text.natText limit ++ " reached"

/-- Why a call fails. -/
inductive MonitorError where
  /-- The request itself is wrong. -/
  | request (cause : RequestError)
  | unauthorized (ns : String)
  /-- There is no sink to hand updates to. -/
  | notBound
  | notFound (target : Target)
  | capacity (cause : CapacityError)
  /-- The deployment could not be fetched, or its watch not be opened. -/
  | watch (cause : WatchError)
deriving DecidableEq, Repr

namespace MonitorError

/-- The label of an error. -/
def label : MonitorError → String
  | request (.timeout _) => "invalid_timeout"
  | request _ => "invalid_target"
  | unauthorized _ => "unauthorized"
  | notBound => "not_bound"
  | notFound _ => "not_found"
  | capacity (.callerLimit _ _) => "caller_limit"
  | capacity (.globalLimit _) => "global_limit"
  | watch _ => "watch_setup"

/-- The error in words. -/
def text : MonitorError → String
  | request (.timeout value) =>
      "invalid timeout '" ++ value ++ "': expected a positive number of seconds"
  | request cause => "invalid subscription target: " ++ cause.detail
  | unauthorized ns => "namespace '" ++ ns ++ "' is not authorized"
  | notBound => "subscription manager is not bound to a progress sink"
  | notFound target => "ClusterDeployment " ++ target.text ++ " not found"
  | capacity cause => cause.text
  | watch cause => "watch setup failed: " ++ cause.text

/-- What an error was caused by, in words; an exhausted quota is its own cause. -/
def cause? : MonitorError → Option String
  | watch cause => some cause.text
  | _ => none

end MonitorError
end ProvisionWatch

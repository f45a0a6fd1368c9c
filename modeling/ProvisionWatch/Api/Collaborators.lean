import ProvisionWatch.Api.Presence
import ProvisionWatch.Api.Request
import ProvisionWatch.Event.Codec
import ProvisionWatch.Session.Basic

/-!
# The cluster as a collaborator

Fetching and watching deployments and events by requests to the cluster.  Each
answer comes with the requests that were made for it.
-/

namespace ProvisionWatch
namespace Api

/-! ## Fetching -/

/-- An answer and the requests that were made for it. -/
structure Answer (α : Type) where
  result : α
  requests : List Request

/-- A read request. -/
def getRequest (path : String) : Request :=
  { verb := .get, path := path, selector := none }

/-- Read what a path leads to. -/
def get (path : String) (reply : Reply) (d : Json.Decoder α) : Answer (Except Error α) :=
  if isSoundPath path then
    { result := reply.read d, requests := [getRequest path] }
  else
    { result := .error .unsoundPath, requests := [] }

/-- Nothing, where the cluster says that there is nothing. -/
def orNone : Except Error α → Except WatchError (Option α)
  | .ok a => .ok (some a)
  | .error (.refused r) =>
      if r.reason = "NotFound" then .ok none else .error (.api (Error.refused r).text)
  | .error e => .error (.api e.text)

/-- Fetch a deployment. -/
def fetch (target : Target) (reply : Reply) :
    Answer (Except WatchError (Option Deployment)) :=
  if target.name.isEmpty then
    { result := .error (.api Error.namelessRequest.text), requests := [] }
  else
    let answer := get (deploymentPath target) reply Deployment.decoder
    { result := orNone answer.result, requests := answer.requests }

/-- List the events of a namespace. -/
def listEvents (ns : String) (reply : Reply) : Answer (Except WatchError (List Event)) :=
  let answer := get (eventsPath ns) reply (Page.decoder versionedEvent)
  { result := match answer.result with
      | .ok page => .ok (page.objects.map Versioned.object)
      | .error e => .error (.api e.text)
    requests := answer.requests }

/-! ## Watching -/

/-- The error of a watch as it is passed on. -/
def streamError (e : WatcherError) : WatchError :=
  .stream e.text

/-- Turn reports into changes of a deployment; errors are passed on. -/
def changesFrom (p : Presence) : List (WatcherReport Deployment) → List ResourceItem
  | [] => []
  | .error e :: rest => .error (streamError e) :: changesFrom p rest
  | .ok e :: rest =>
      let (p, change) := p.react e
      change.toList.map ResourceItem.change ++ changesFrom p rest

/-- Watch a deployment. -/
def watchDeployment (target : Target) (sessions : List Session) : Answer (List ResourceItem) :=
  let followed := follow versionedDeployment sessions
  { result := changesFrom (.start target) followed.reports
    requests := followed.verbs.map fun verb =>
      { verb := verb, path := deploymentsPath target.ns,
        selector := some (nameSelector target.name) } }

/-- The events in a report; only what happens after the listing counts. -/
def eventItem? : WatcherReport Event → Option EventItem
  | .error e => some (.error (streamError e))
  | .ok (.applied e) => some (.event e)
  | .ok _ => none

/-- Watch the events of a namespace. -/
def watchEvents (ns : String) (sessions : List Session) : Answer (List EventItem) :=
  let followed := follow versionedEvent sessions
  { result := followed.reports.filterMap eventItem?
    requests := followed.verbs.map fun verb =>
      { verb := verb, path := eventsPath ns, selector := none } }

end Api
end ProvisionWatch

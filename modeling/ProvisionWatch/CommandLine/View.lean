import ProvisionWatch.Api.Collaborators

/-!
# The cluster as a command sees it

While a command runs it asks the cluster for one deployment and for the events
around it.  Without a connection every request fails.
-/

namespace ProvisionWatch
namespace CommandLine

/-- What the cluster answers while a command runs. -/
structure ClusterView where
  fetch : Target → Except WatchError (Option Deployment)
  /-- What the watch of a deployment brings, until nothing more comes. -/
  changes : Target → List ResourceItem
  listEvents : String → Except WatchError (List Event)
  /-- What the watch of the events of a namespace brings. -/
  events : String → List EventItem

namespace ClusterView

/-- There is no connection. -/
def unreachable : ClusterView :=
  let error := WatchError.api Api.Error.unreachable.text
  { fetch := fun _ => .error error
    changes := fun _ => []
    listEvents := fun _ => .error error
    events := fun _ => [] }

/-- The cluster sends what is written down.  The first listing of events answers the request for
the latest events, the others belong to their watch. -/
def ofReplies (reply : Api.Reply) (deployments events : List Api.Session) : ClusterView :=
  { fetch := fun target => (Api.fetch target reply).result
    changes := fun target => (Api.watchDeployment target deployments).result
    listEvents := fun ns =>
      match events with
      | [] => .ok []
      | session :: _ => (Api.listEvents ns session.listing).result
    events := fun ns => (Api.watchEvents ns (events.drop 1)).result }

end ClusterView
end CommandLine
end ProvisionWatch

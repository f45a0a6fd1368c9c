import ProvisionWatch.Deployment.Basic
import ProvisionWatch.Event.Basic
import ProvisionWatch.Target
import ProvisionWatch.Watch

/-!
# A cluster in memory

A cluster for rehearsals.  It holds deployments by namespace and name and one
list of events, and it fails the next request of a kind when it is told to,
once.
-/

namespace ProvisionWatch

/-- What identifies a deployment by its own metadata. -/
def Deployment.target (d : Deployment) : Target :=
  { ns := d.metadata.ns.getD "", name := d.metadata.name.getD "" }

/-- A cluster in memory. -/
structure MemoryCluster where
  deployments : List (Target × Deployment)
  /-- The events that are listed, for every namespace. -/
  events : List Event
  /-- What the next fetch fails with. -/
  fetchFault : Option WatchError
  watchFault : Option WatchError
  eventWatchFault : Option WatchError
  listFault : Option WatchError
  /-- How often a deployment was fetched so far. -/
  fetchCount : Nat
  /-- How often a watch of a deployment was opened so far. -/
  watchCount : Nat

namespace MemoryCluster

/-- A cluster without anything in it. -/
def empty : MemoryCluster :=
  { deployments := []
    events := []
    fetchFault := none
    watchFault := none
    eventWatchFault := none
    listFault := none
    fetchCount := 0
    watchCount := 0 }

/-- Take out a deployment. -/
def remove (c : MemoryCluster) (target : Target) : MemoryCluster :=
  { c with deployments := c.deployments.filter fun d => d.1 != target }

/-- Put in a deployment, in the place of the one with its name. -/
def insert (c : MemoryCluster) (d : Deployment) : MemoryCluster :=
  { c with deployments := (d.target, d) :: (c.remove d.target).deployments }

/-- Fetch a deployment. -/
def fetch (c : MemoryCluster) (target : Target) :
    MemoryCluster × Except WatchError (Option Deployment) :=
  match c.fetchFault with
  | some e => ({ c with fetchFault := none }, .error e)
  | none => (c, .ok (c.deployments.lookup target))

/-- Open a watch of a deployment. -/
def openWatch (c : MemoryCluster) : MemoryCluster × Except WatchError Unit :=
  let c := { c with watchCount := c.watchCount + 1 }
  match c.watchFault with
  | some e => ({ c with watchFault := none }, .error e)
  | none => (c, .ok ())

/-- Open a watch of the events of a namespace. -/
def openEventWatch (c : MemoryCluster) : MemoryCluster × Except WatchError Unit :=
  match c.eventWatchFault with
  | some e => ({ c with eventWatchFault := none }, .error e)
  | none => (c, .ok ())

/-- List the events of a namespace. -/
def listEvents (c : MemoryCluster) : MemoryCluster × Except WatchError (List Event) :=
  match c.listFault with
  | some e => ({ c with listFault := none }, .error e)
  | none => (c, .ok c.events)

end MemoryCluster
end ProvisionWatch

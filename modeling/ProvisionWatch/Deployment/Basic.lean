import ProvisionWatch.Metadata
import ProvisionWatch.Snapshot
import ProvisionWatch.Text.Split

/-!
# Deployments

The resource that is watched: what identifies it, what was asked for and what
its controller reports.  A snapshot is what the rest of the library sees of it.

Main results:

- Theorem `Deployment.snapshot_conditions`: the conditions of a snapshot are
  the merged reports, and there are none without a status.
-/

namespace ProvisionWatch

/-- What was asked for. -/
structure Spec where
  /-- The name of the template the cluster is built from. -/
  template : String
  /-- The name of the credential for the infrastructure. -/
  credential : Option String
  /-- Free values for the template. -/
  config : Option Json
  /-- Only render the template. -/
  dryRun : Bool

/-- The state of one add-on service as it is reported. -/
structure ReportedService where
  name : String
  ns : Option String
  template : Option String
  state : Option String
  type : Option String
  version : Option String
  conditions : List ReportedCondition
  lastStateTransitionTime : Option String
deriving DecidableEq, Repr, Inhabited

/-- What the controller reports. -/
structure Status where
  phase : Option String
  conditions : List ReportedCondition
  services : List ReportedService
  observedGeneration : Option Int
deriving DecidableEq, Repr, Inhabited

/-- A cluster deployment. -/
structure Deployment where
  metadata : Metadata
  spec : Spec
  status : Option Status

namespace Spec

/-- Nothing was asked for. -/
def blank : Spec :=
  { template := "", credential := none, config := none, dryRun := false }

/-- The providers a template name can start with. -/
def knownProviders : List String :=
  ["aws", "azure", "vsphere", "openstack", "gcp", "docker", "adopted", "remote"]

/-- The infrastructure provider: what stands before the first dash of the template's name, in
small letters, if it is a known one. -/
def provider? (template : String) : Option String :=
  let front := template.toList.takeWhile fun c => c != '-'
  let name := Text.lowered (String.ofList front)
  if name ∈ knownProviders then some name else none

/-- Where the cluster runs: the region, or the location if no region is given. -/
def region? (config : Option Json) : Option String :=
  match config with
  | none => none
  | some config =>
      match config.member? "region" with
      | some region => region.text?
      | none => (config.member? "location").bind Json.text?

end Spec

/-- The content of a reported service. -/
def Service.ofReport (r : ReportedService) : Service :=
  { name := r.name
    ns := r.ns.getD ""
    template := r.template.getD ""
    state := r.state.getD ""
    type := r.type.getD ""
    version := r.version.getD ""
    conditions := Condition.summarize r.conditions
    lastTransitionTime := r.lastStateTransitionTime }

namespace Deployment

/-- A deployment of which only the name is known. -/
def named (ns name : String) : Deployment :=
  { metadata := { Metadata.blank with name := some name, ns := some ns }
    spec := .blank
    status := none }

/-- Identity and context.  The creation time counts in whole seconds. -/
def clusterInfo (d : Deployment) : ClusterInfo :=
  { name := d.metadata.name.getD ""
    ns := d.metadata.ns.getD ""
    template := d.spec.template
    credential := d.spec.credential
    provider := Spec.provider? d.spec.template
    region := Spec.region? d.spec.config
    createdAt := (d.metadata.creationTimestamp.map Instant.cutToSeconds).bind Instant.inPlainYear? }

/-- The deployment at this point in time. -/
def snapshot (d : Deployment) : Snapshot :=
  { cluster := d.clusterInfo
    statusPhase := d.status.bind Status.phase
    conditions := (d.status.map fun s => Condition.summarize s.conditions).getD []
    services := (d.status.map fun s => s.services.map Service.ofReport).getD [] }

/-- A snapshot shows the summary of what is reported, or of nothing. -/
theorem snapshot_conditions (d : Deployment) :
    d.snapshot.conditions =
      Condition.summarize ((d.status.map Status.conditions).getD []) := by
  cases h : d.status <;> simp [snapshot, h, Condition.summarize]

end Deployment
end ProvisionWatch

import ProvisionWatch.Deployment.Basic

/-!
# Deployments as JSON values

Deployments are read generously: most members may be missing or null, and
members that are not known are ignored.  They are written in full; only
the metadata and an absent status leave members out.

Main results:

- Theorem `ReportedCondition.decode_encode`: a report reads back.
- Theorem `Spec.decode_encode`: so does what was asked for, unless the
  template's values are given as null.
-/

namespace ProvisionWatch

open Json (Decoder optionalMember encodeOption)

/-! ## What was asked for -/

/-- What was asked for as the cluster writes it. -/
def Spec.decoder : Decoder Spec :=
  .record "ClusterDeploymentSpec"
    (mk <$> .orElse "template" "" .text <*> .optional "credential" .text <*>
      .optional "config" .any <*> .orElse "dryRun" false .truth)

/-- Read what was asked for. -/
def Spec.decode (v : Json) : Option Spec :=
  decoder.decode v

/-- What was asked for as a JSON value. -/
def Spec.encode (s : Spec) : Json :=
  .obj [("template", .str s.template), ("credential", encodeOption Json.str s.credential),
    ("config", encodeOption id s.config), ("dryRun", .bool s.dryRun)]

/-- What was asked for reads back, unless its values are a null that is there. -/
@[simp]
theorem Spec.decode_encode (s : Spec) (h : s.config ≠ some .null) :
    Spec.decode s.encode = some s := by
  obtain ⟨template, credential, config, dryRun⟩ := s
  rcases credential with _ | credential <;> rcases config with _ | config
  · rfl
  · cases config <;> first | rfl | exact absurd rfl h
  · rfl
  · cases config <;> first | rfl | exact absurd rfl h

/-! ## What is reported -/

/-- Reported conditions as the cluster writes them. -/
def ReportedCondition.decoder : Decoder ReportedCondition :=
  .record "Condition"
    (mk <$> .required "type" .text <*> .required "status" .text <*>
      .optional "lastTransitionTime" .text <*> .optional "reason" .text <*>
      .optional "message" .text)

/-- Read a reported condition. -/
def ReportedCondition.decode (v : Json) : Option ReportedCondition :=
  decoder.decode v

/-- The reported condition as a JSON value. -/
def ReportedCondition.encode (c : ReportedCondition) : Json :=
  .obj [("type", .str c.type), ("status", .str c.status),
    ("lastTransitionTime", encodeOption Json.str c.lastTransitionTime),
    ("reason", encodeOption Json.str c.reason), ("message", encodeOption Json.str c.message)]

/-- A reported condition reads back. -/
@[simp]
theorem ReportedCondition.decode_encode (c : ReportedCondition) :
    ReportedCondition.decode c.encode = some c := by
  obtain ⟨type, status, lastTransitionTime, reason, message⟩ := c
  cases lastTransitionTime <;> cases reason <;> cases message <;> rfl

/-- Reported services as the cluster writes them. -/
def ReportedService.decoder : Decoder ReportedService :=
  .record "ServiceStatusEntry"
    (mk <$> .required "name" .text <*> .optional "namespace" .text <*>
      .optional "template" .text <*> .optional "state" .text <*> .optional "type" .text <*>
      .optional "version" .text <*>
      .orElse "conditions" [] (.list ReportedCondition.decoder) <*>
      .optional "lastStateTransitionTime" .text)

/-- Read a reported service. -/
def ReportedService.decode (v : Json) : Option ReportedService :=
  decoder.decode v

/-- The reported service as a JSON value. -/
def ReportedService.encode (s : ReportedService) : Json :=
  .obj [("name", .str s.name), ("namespace", encodeOption Json.str s.ns),
    ("template", encodeOption Json.str s.template), ("state", encodeOption Json.str s.state),
    ("type", encodeOption Json.str s.type), ("version", encodeOption Json.str s.version),
    ("conditions", .arr (s.conditions.map ReportedCondition.encode)),
    ("lastStateTransitionTime", encodeOption Json.str s.lastStateTransitionTime)]

/-- What the controller reports as the cluster writes it. -/
def Status.decoder : Decoder Status :=
  .record "ClusterDeploymentStatus"
    (mk <$> .optional "phase" .text <*>
      .orElse "conditions" [] (.list ReportedCondition.decoder) <*>
      .orElse "services" [] (.list ReportedService.decoder) <*>
      .optional "observedGeneration" .whole64)

/-- Read what the controller reports. -/
def Status.decode (v : Json) : Option Status :=
  decoder.decode v

/-- What the controller reports as a JSON value. -/
def Status.encode (s : Status) : Json :=
  .obj [("phase", encodeOption Json.str s.phase),
    ("conditions", .arr (s.conditions.map ReportedCondition.encode)),
    ("services", .arr (s.services.map ReportedService.encode)),
    ("observedGeneration", encodeOption Json.int s.observedGeneration)]

/-! ## Deployments -/

namespace Deployment

/-- The group and version of the resource. -/
def apiVersion : String := "k0rdent.mirantis.com/v1beta1"

/-- The kind of the resource. -/
def kind : String := "ClusterDeployment"

/-- Deployments as the cluster writes them.  In a list the status has to be there, if only as
null. -/
def decoder : Decoder Deployment :=
  .record kind
    (mk <$> .required "metadata" Metadata.decoder <*> .required "spec" Spec.decoder <*>
      .placed "status" Status.decoder)

/-- Read a deployment. -/
def decode (v : Json) : Option Deployment :=
  decoder.decode v

/-- The deployment as a JSON value. -/
def encode (d : Deployment) : Json :=
  .obj ([("apiVersion", .str apiVersion), ("kind", .str kind), ("metadata", d.metadata.encode),
    ("spec", d.spec.encode)] ++ optionalMember "status" Status.encode d.status)

end Deployment
end ProvisionWatch

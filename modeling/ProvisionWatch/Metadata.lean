import ProvisionWatch.Time.Codec

/-!
# Metadata

What every object of the cluster carries.  It is read generously: every member
may be missing or null, but one that is there has to have its type.  Only the
members that are set are written, and times are written in whole seconds.

Main results:

- Theorem `OwnerReference.decode_encode`: a reference to an owner reads back.
-/

namespace ProvisionWatch

open Json (Decoder Fields optionalMember)

/-! ## Owners -/

/-- An object that another object belongs to. -/
structure OwnerReference where
  apiVersion : String
  blockOwnerDeletion : Option Bool
  controller : Option Bool
  kind : String
  name : String
  uid : String
deriving DecidableEq

namespace OwnerReference

/-- A string that is empty when it is missing or null. -/
def textOrEmpty (name : String) : Fields String :=
  (·.getD "") <$> Fields.optional name .text

/-- References to owners as the cluster writes them. -/
def decoder : Decoder OwnerReference :=
  .object "OwnerReference"
    (mk <$> textOrEmpty "apiVersion" <*> .optional "blockOwnerDeletion" .truth <*>
      .optional "controller" .truth <*> textOrEmpty "kind" <*> textOrEmpty "name" <*>
      textOrEmpty "uid")

/-- The reference as a JSON value. -/
def encode (r : OwnerReference) : Json :=
  .obj ([("apiVersion", .str r.apiVersion)] ++
    optionalMember "blockOwnerDeletion" Json.bool r.blockOwnerDeletion ++
    optionalMember "controller" Json.bool r.controller ++
    [("kind", .str r.kind), ("name", .str r.name), ("uid", .str r.uid)])

/-- A reference to an owner reads back. -/
@[simp]
theorem decode_encode (r : OwnerReference) : decoder.decode r.encode = some r := by
  obtain ⟨apiVersion, blockOwnerDeletion, controller, kind, name, uid⟩ := r
  cases blockOwnerDeletion <;> cases controller <;> rfl

end OwnerReference

/-! ## Managers -/

/-- Which members of an object somebody manages. -/
structure ManagedFields where
  apiVersion : Option String
  fieldsType : Option String
  fields : Option Json
  manager : Option String
  operation : Option String
  subresource : Option String
  time : Option Instant

/-- A time as the cluster keeps it. -/
def encodeSeconds (t : Instant) : Json :=
  t.cutToSeconds.encode

namespace ManagedFields

/-- Managed members as the cluster writes them. -/
def decoder : Decoder ManagedFields :=
  .object "ManagedFieldsEntry"
    (mk <$> .optional "apiVersion" .text <*> .optional "fieldsType" .text <*>
      .optional "fieldsV1" .any <*> .optional "manager" .text <*> .optional "operation" .text <*>
      .optional "subresource" .text <*> .optional "time" Instant.decoder)

/-- Managed members as a JSON value. -/
def encode (m : ManagedFields) : Json :=
  .obj (optionalMember "apiVersion" Json.str m.apiVersion ++
    optionalMember "fieldsType" Json.str m.fieldsType ++
    optionalMember "fieldsV1" id m.fields ++
    optionalMember "manager" Json.str m.manager ++
    optionalMember "operation" Json.str m.operation ++
    optionalMember "subresource" Json.str m.subresource ++
    optionalMember "time" encodeSeconds m.time)

end ManagedFields

/-! ## Metadata -/

/-- What every object of the cluster carries. -/
structure Metadata where
  annotations : Option (List (String × String))
  creationTimestamp : Option Instant
  deletionGracePeriodSeconds : Option Int
  deletionTimestamp : Option Instant
  finalizers : Option (List String)
  generateName : Option String
  generation : Option Int
  labels : Option (List (String × String))
  managedFields : Option (List ManagedFields)
  name : Option String
  ns : Option String
  ownerReferences : Option (List OwnerReference)
  resourceVersion : Option String
  selfLink : Option String
  uid : Option String

namespace Metadata

/-- Nothing is set. -/
def blank : Metadata :=
  { annotations := none, creationTimestamp := none, deletionGracePeriodSeconds := none,
    deletionTimestamp := none, finalizers := none, generateName := none, generation := none,
    labels := none, managedFields := none, name := none, ns := none, ownerReferences := none,
    resourceVersion := none, selfLink := none, uid := none }

/-- Metadata as the cluster writes it. -/
def decoder : Decoder Metadata :=
  .object "ObjectMeta"
    (mk <$> .optional "annotations" .texts <*>
      .optional "creationTimestamp" Instant.decoder <*>
      .optional "deletionGracePeriodSeconds" .whole64 <*>
      .optional "deletionTimestamp" Instant.decoder <*>
      .optional "finalizers" (.list .text) <*>
      .optional "generateName" .text <*>
      .optional "generation" .whole64 <*>
      .optional "labels" .texts <*>
      .optional "managedFields" (.list ManagedFields.decoder) <*>
      .optional "name" .text <*>
      .optional "namespace" .text <*>
      .optional "ownerReferences" (.list OwnerReference.decoder) <*>
      .optional "resourceVersion" .text <*>
      .optional "selfLink" .text <*>
      .optional "uid" .text)

/-- Read metadata. -/
def decode (v : Json) : Option Metadata :=
  decoder.decode v

/-- Metadata as a JSON value. -/
def encode (m : Metadata) : Json :=
  .obj (optionalMember "annotations" Json.ofTexts m.annotations ++
    optionalMember "creationTimestamp" encodeSeconds m.creationTimestamp ++
    optionalMember "deletionGracePeriodSeconds" Json.int m.deletionGracePeriodSeconds ++
    optionalMember "deletionTimestamp" encodeSeconds m.deletionTimestamp ++
    optionalMember "finalizers" (fun fs => .arr (fs.map Json.str)) m.finalizers ++
    optionalMember "generateName" Json.str m.generateName ++
    optionalMember "generation" Json.int m.generation ++
    optionalMember "labels" Json.ofTexts m.labels ++
    optionalMember "managedFields" (fun fs => .arr (fs.map ManagedFields.encode))
      m.managedFields ++
    optionalMember "name" Json.str m.name ++
    optionalMember "namespace" Json.str m.ns ++
    optionalMember "ownerReferences" (fun rs => .arr (rs.map OwnerReference.encode))
      m.ownerReferences ++
    optionalMember "resourceVersion" Json.str m.resourceVersion ++
    optionalMember "selfLink" Json.str m.selfLink ++
    optionalMember "uid" Json.str m.uid)

/-- The version of an object, if it is there and not empty. -/
def version? (m : Metadata) : Option String :=
  m.resourceVersion.filter fun s => !s.isEmpty

/-- Metadata with nothing set reads back. -/
@[simp]
theorem decode_encode_blank : decode blank.encode = some blank := by
  rfl

end Metadata
end ProvisionWatch

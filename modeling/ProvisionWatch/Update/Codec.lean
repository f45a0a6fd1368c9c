import ProvisionWatch.Time.Codec
import ProvisionWatch.Update.Basic

/-!
# Updates as JSON values

The codecs of an update and of what it holds.  Optional members are left out
when they are absent; they may be missing or null when they are read, and
members that are not known are ignored.

Main results:

- Theorem `Condition.decode_encode`: a condition reads back.
- Theorem `ObjectRef.decode_encode`: so does a reference to an object.
-/

namespace ProvisionWatch

open Json (layout nullable optionalMember)

/-! ## Conditions -/

/-- The condition as a JSON value. -/
def Condition.encode (c : Condition) : Json :=
  .obj [("type", .str c.type), ("status", .str c.status), ("reason", .str c.reason),
    ("message", .str c.message)]

/-- Read a condition. -/
def Condition.decode (v : Json) : Option Condition := do
  let l ← layout 4 v
  return {
    type := ← l.required 0 "type" Json.text?
    status := ← l.required 1 "status" Json.text?
    reason := ← l.orElse 2 "reason" "" Json.text?
    message := ← l.orElse 3 "message" "" Json.text? }

/-- A condition reads back. -/
@[simp]
theorem Condition.decode_encode (c : Condition) : Condition.decode c.encode = some c := by
  rfl

/-! ## References to objects -/

/-- The reference as a JSON value. -/
def ObjectRef.encode (o : ObjectRef) : Json :=
  .obj (("kind", .str o.kind) :: ("name", .str o.name) ::
    optionalMember "namespace" Json.str o.ns)

/-- Read a reference. -/
def ObjectRef.decode (v : Json) : Option ObjectRef := do
  let l ← layout 3 v
  return {
    kind := ← l.required 0 "kind" Json.text?
    name := ← l.required 1 "name" Json.text?
    ns := ← l.orElse 2 "namespace" none (nullable Json.text?) }

/-- A reference to an object reads back. -/
@[simp]
theorem ObjectRef.decode_encode (o : ObjectRef) : ObjectRef.decode o.encode = some o := by
  obtain ⟨kind, name, ns⟩ := o
  cases ns <;> rfl

/-! ## Clusters and services -/

/-- Identity and context as a JSON value. -/
def ClusterInfo.encode (c : ClusterInfo) : Json :=
  .obj ([("name", .str c.name), ("namespace", .str c.ns), ("template", .str c.template)] ++
    optionalMember "credential" Json.str c.credential ++
    optionalMember "provider" Json.str c.provider ++
    optionalMember "region" Json.str c.region ++
    optionalMember "createdAt" Instant.encode c.createdAt)

/-- Read identity and context. -/
def ClusterInfo.decode (v : Json) : Option ClusterInfo := do
  let l ← layout 7 v
  return {
    name := ← l.required 0 "name" Json.text?
    ns := ← l.required 1 "namespace" Json.text?
    template := ← l.required 2 "template" Json.text?
    credential := ← l.orElse 3 "credential" none (nullable Json.text?)
    provider := ← l.orElse 4 "provider" none (nullable Json.text?)
    region := ← l.orElse 5 "region" none (nullable Json.text?)
    createdAt := ← l.orElse 6 "createdAt" none (nullable Instant.decode) }

/-- The service as a JSON value. -/
def Service.encode (s : Service) : Json :=
  .obj ([("name", .str s.name), ("namespace", .str s.ns), ("template", .str s.template),
    ("state", .str s.state), ("type", .str s.type), ("version", .str s.version),
    ("conditions", .arr (s.conditions.map Condition.encode))] ++
    optionalMember "lastTransitionTime" Json.str s.lastTransitionTime)

/-- Read a service. -/
def Service.decode (v : Json) : Option Service := do
  let l ← layout 8 v
  return {
    name := ← l.required 0 "name" Json.text?
    ns := ← l.required 1 "namespace" Json.text?
    template := ← l.required 2 "template" Json.text?
    state := ← l.required 3 "state" Json.text?
    type := ← l.required 4 "type" Json.text?
    version := ← l.required 5 "version" Json.text?
    conditions := ← l.required 6 "conditions" (Json.list Condition.decode)
    lastTransitionTime := ← l.orElse 7 "lastTransitionTime" none (nullable Json.text?) }

/-! ## Updates -/

/-- A percentage as a JSON value. -/
def encodePercent (n : UInt8) : Json :=
  .int n.toNat

/-- Read a percentage; anything up to 255 is one. -/
def decodePercent (v : Json) : Option UInt8 :=
  (Json.intBetween 0 255 v).map fun n => UInt8.ofNat n.toNat

namespace Update

/-- The update as a JSON value. -/
def encode (u : Update) : Json :=
  .obj ([("timestamp", u.timestamp.encode), ("phase", u.phase.encode)] ++
    optionalMember "progress" encodePercent u.progress ++
    [("message", .str u.message), ("reason", .str u.reason), ("source", u.source.encode),
      ("severity", u.severity.encode)] ++
    optionalMember "relatedObject" ObjectRef.encode u.relatedObject ++
    [("conditions", .arr (u.conditions.map Condition.encode)), ("terminal", .bool u.terminal)] ++
    optionalMember "cluster" ClusterInfo.encode u.cluster ++
    [("services", .arr (u.services.map Service.encode))])

/-- Read an update. -/
def decode (v : Json) : Option Update := do
  let l ← layout 12 v
  return {
    timestamp := ← l.required 0 "timestamp" Instant.decode
    phase := ← l.required 1 "phase" Phase.decode
    progress := ← l.orElse 2 "progress" none (nullable decodePercent)
    message := ← l.required 3 "message" Json.text?
    reason := ← l.required 4 "reason" Json.text?
    source := ← l.required 5 "source" Source.decode
    severity := ← l.required 6 "severity" Severity.decode
    relatedObject := ← l.orElse 7 "relatedObject" none (nullable ObjectRef.decode)
    conditions := ← l.orElse 8 "conditions" [] (Json.list Condition.decode)
    terminal := ← l.required 9 "terminal" Json.bool?
    cluster := ← l.orElse 10 "cluster" none (nullable ClusterInfo.decode)
    services := ← l.orElse 11 "services" [] (Json.list Service.decode) }

end Update
end ProvisionWatch

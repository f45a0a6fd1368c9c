import ProvisionWatch.Event.Basic
import ProvisionWatch.Metadata

/-!
# Events as the cluster sends them

An event of the cluster is read generously: every member may be missing or
null, but a member that is there has to have its type, also where it is not
used, and the kind has to be that of events.  The namespace of the event stands
in for a missing namespace of the object it is about.
-/

namespace ProvisionWatch
namespace Event

open Json (Decoder Fields)

/-- The group and version of events. -/
def apiVersion : String := "v1"

/-- The kind of events. -/
def kind : String := "Event"

/-- The time of an event, as fine as the cluster keeps it. -/
def keptTime (cut : Instant → Instant) (t : Option Instant) : Option Instant :=
  (t.map cut).bind Instant.inPlainYear?

/-- The component that reported an event; nothing of it is used. -/
def reporter : Decoder Unit :=
  .object "EventSource"
    ((fun _ _ => ()) <$> Fields.optional "component" .text <*> .optional "host" .text)

/-- The count and the last time of a series of events; nothing of it is used. -/
def series : Decoder Unit :=
  .object "EventSeries"
    ((fun _ _ => ()) <$> Fields.optional "count" .whole32 <*>
      .optional "lastObservedTime" Instant.decoder)

/-- A reference to an object with all that may be missing. -/
def reference : Decoder ObjectRef :=
  .object "ObjectReference"
    ((fun kind name ns _ _ _ _ => ⟨kind.getD "", name.getD "", ns⟩) <$>
      Fields.optional "kind" .text <*> .optional "name" .text <*> .optional "namespace" .text <*>
      .optional "apiVersion" .text <*> .optional "fieldPath" .text <*>
      .optional "resourceVersion" .text <*> .optional "uid" .text)

/-- A member that is missing or of its type; nothing of it is used. -/
def unused (name : String) (d : Decoder α) : Fields Unit :=
  (fun _ => ()) <$> Fields.optional name d

/-- The members of which nothing is used. -/
def unusedMembers : Fields Unit :=
  Fields.orElse "apiVersion" () (.exactly apiVersion) <* Fields.orElse "kind" () (.exactly kind) <*
    unused "action" .text <* unused "count" .whole32 <* unused "related" reference <*
    unused "reportingComponent" .text <* unused "reportingInstance" .text <*
    unused "series" series <* unused "source" reporter

/-- An event with its metadata, out of what is read. -/
def ofMembers (home : Option Metadata) (involved : Option ObjectRef)
    (reason message type : Option String) (eventTime lastSeen firstSeen : Option Instant) :
    Event × Option Metadata :=
  let object := involved.getD ⟨"", "", none⟩
  let event : Event := {
    involved := { object with ns := object.ns.or (home.bind Metadata.ns) }
    reason := reason.getD ""
    message := message.getD ""
    type := type.getD "Normal"
    eventTime := keptTime Instant.cutToMicros eventTime
    lastSeen := keptTime Instant.cutToSeconds lastSeen
    firstSeen := keptTime Instant.cutToSeconds firstSeen }
  (event, home)

/-- Events with their metadata as the cluster writes them. -/
def decoder : Decoder (Event × Option Metadata) :=
  .object kind
    (ofMembers <$> .optional "metadata" Metadata.decoder <*>
      .optional "involvedObject" reference <*> .optional "reason" .text <*>
      .optional "message" .text <*> .optional "type" .text <*>
      .optional "eventTime" Instant.decoder <*> .optional "lastTimestamp" Instant.decoder <*>
      .optional "firstTimestamp" Instant.decoder <* unusedMembers)

/-- Read an event. -/
def decode (v : Json) : Option Event :=
  (decoder.decode v).map Prod.fst

end Event
end ProvisionWatch

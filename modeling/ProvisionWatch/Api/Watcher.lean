import ProvisionWatch.Api.Reply
import ProvisionWatch.Api.Request
import ProvisionWatch.Event.Codec
import ProvisionWatch.Json.Choice
import ProvisionWatch.Text.Split

/-!
# Watching a collection

A collection is watched by listing it first and then following what happens to
it.  A connection that ends or is refused is opened again.  When the cluster
cannot go on from where the watch was, when a listing fails, or when something
comes without a version, everything starts over with a new listing.

What the cluster sends is given as sessions: the reply to one listing, and what
the watch requests after it bring.  Where they end, nothing more comes.
-/

namespace ProvisionWatch
namespace Api

/-! ## What is sent -/

/-- What a watch request brings. -/
inductive WatchReply where
  /-- Lines of the stream, and whether the connection closes behind them. -/
  | stream (lines : List Json) (closes : Bool)
  | refused (reply : Reply)

/-- The reply to a listing, and what the watch requests after it bring. -/
structure Session where
  listing : Reply
  watches : List WatchReply

/-! ## What is reported -/

/-- What is reported about the objects of a collection. -/
inductive ObjectEvent (α : Type) where
  /-- A listing begins. -/
  | listing
  /-- An object is listed. -/
  | listed (object : α)
  /-- All objects are listed. -/
  | listingDone
  /-- An object was added or modified. -/
  | applied (object : α)
  | deleted (object : α)
deriving DecidableEq, Repr

/-- What goes wrong with a watch. -/
inductive WatcherError where
  | listingFailed (error : Error)
  /-- The stream brings something else than a happening. -/
  | streamFailed (error : Error)
  /-- The cluster reports an error on the stream. -/
  | reported (refusal : Refusal)
  /-- A listing or an object has no version. -/
  | noVersion
deriving DecidableEq, Repr

/-- The error in words. -/
def WatcherError.text : WatcherError → String
  | listingFailed e => "failed to perform initial object list: " ++ e.text
  | streamFailed e => "watch stream failed: " ++ e.text
  | reported r => "error returned by apiserver during watch: " ++ r.text
  | noVersion => "no metadata.resourceVersion in watch result (does resource support watch?)"

/-- One report. -/
abbrev WatcherReport (α : Type) := Except WatcherError (ObjectEvent α)

/-! ## Pages of a listing -/

/-- An object of a collection, and its version if it is there and not empty. -/
structure Versioned (α : Type) where
  object : α
  version : Option String
deriving DecidableEq, Repr

/-- Deployments with their versions. -/
def versionedDeployment : Json.Decoder (Versioned Deployment) :=
  Deployment.decoder.map fun d => { object := d, version := d.metadata.version? }

/-- Events with their versions. -/
def versionedEvent : Json.Decoder (Versioned Event) :=
  Event.decoder.map fun (e, home) => { object := e, version := home.bind Metadata.version? }

/-- What is said about a page: its version, and how to ask for the next. -/
structure PageHead where
  version : Option String
  next : Option String
deriving DecidableEq, Repr

namespace PageHead

/-- Nothing is said. -/
def blank : PageHead :=
  { version := none, next := none }

/-- Heads of pages as the cluster writes them. -/
def decoder : Json.Decoder PageHead :=
  .object "ListMeta"
    ((fun version next _ _ => ⟨version, next⟩) <$> Json.Fields.optional "resourceVersion" .text <*>
      .optional "continue" .text <*> .optional "remainingItemCount" .whole64 <*>
      .optional "selfLink" .text)

end PageHead

/-- A text that is there and not empty. -/
def isGiven (text : Option String) : Bool :=
  text.any fun s => !s.isEmpty

/-- A page of a listing. -/
structure Page (α : Type) where
  objects : List α
  hasVersion : Bool
  /-- Whether another page follows. -/
  goesOn : Bool
deriving DecidableEq, Repr

/-- Pages of objects as the cluster writes them; null stands for no objects. -/
def Page.decoder (d : Json.Decoder α) : Json.Decoder (Page α) :=
  let fields : Json.Fields (Page α) :=
    (fun (head : PageHead) (objects : Option (List α)) =>
      { objects := objects.getD []
        hasVersion := isGiven head.version
        goesOn := isGiven head.next }) <$>
      .orElse "metadata" .blank PageHead.decoder <*> .required "items" (.nullable (.list d))
  (Json.Decoder.gathering "ObjectList" fields (.pure ())).map Prod.fst

/-! ## Streams -/

/-- One line of a stream. -/
inductive Line (α : Type) where
  | applied (object : Versioned α)
  | deleted (object : Versioned α)
  /-- The watch has come so far; nothing happened. -/
  | bookmark
  | report (refusal : Refusal)
  | fault (error : Error)

/-- How far a watch has come, as the cluster writes it. -/
def bookmark : Json.Decoder (Unit × Unit) :=
  let progress : Json.Decoder Unit :=
    .record "BookmarkMeta"
      ((fun _ _ => ()) <$> Json.Fields.required "resourceVersion" .text <*>
        .orElse "annotations" [] .texts)
  .gathering "Bookmark" (.required "metadata" progress)
    ((fun _ _ => ()) <$> Json.Fields.required "apiVersion" .text <*> .required "kind" .text)

/-- Happenings as the cluster writes them. -/
def happening (d : Json.Decoder α) : Json.Choice :=
  { name := "WatchEvent"
    kindMember := "type"
    contentMember := "object"
    kinds := [("ADDED", d.form), ("MODIFIED", d.form), ("DELETED", d.form),
      ("BOOKMARK", bookmark.form), ("ERROR", Refusal.decoder.form)] }

/-- The line that a happening is. -/
def Line.ofHappening? (d : Json.Decoder (Versioned α)) (h : Json.Chosen) : Option (Line α) :=
  match h.kind with
  | "ADDED" | "MODIFIED" => (d.decode h.content).map .applied
  | "DELETED" => (d.decode h.content).map .deleted
  | "BOOKMARK" => some .bookmark
  | _ => (Refusal.decoder.decode h.content).map .report

/-- A line that is no happening: a refusal, or else a fault.  A line that ends too early says
nothing. -/
def Line.ofFault (text : String) (fault : Json.Fault) : Option (Line α) :=
  if fault.isEarlyEnd then none
  else
    match Refusal.decoder.read text with
    | .ok refusal => some (.fault (.refused refusal))
    | .error _ => some (.fault (.unreadable fault))

/-- Read a line. -/
def Line.read (d : Json.Decoder (Versioned α)) (text : String) : Option (Line α) :=
  match (happening d).read text with
  | .ok h => Line.ofHappening? d h
  | .error f => Line.ofFault text f

/-- The lines of a text. -/
def linesOf (d : Json.Decoder (Versioned α)) (text : String) : List (Line α) :=
  (Text.lines text).filterMap (Line.read d)

/-- The reports of a stream, and whether it makes everything start over. -/
def followStream : List (Line α) → List (WatcherReport α) × Bool
  | [] => ([], false)
  | line :: rest =>
      let goOn (r : WatcherReport α) : List (WatcherReport α) × Bool :=
        let (reports, again) := followStream rest
        (r :: reports, again)
      match line with
      | .applied a =>
          if a.version.isSome then goOn (.ok (.applied a.object)) else ([.error .noVersion], true)
      | .deleted a =>
          if a.version.isSome then goOn (.ok (.deleted a.object)) else ([.error .noVersion], true)
      | .bookmark => followStream rest
      | .report r => if r.code = 410 then ([.error (.reported r)], true)
          else goOn (.error (.reported r))
      | .fault e => goOn (.error (.streamFailed e))

/-! ## Following a collection -/

/-- What came of following a collection: the reports and the requests that were made. -/
structure Followed (α : Type) where
  reports : List (WatcherReport α)
  verbs : List Verb

/-- First one thing and then another. -/
def Followed.andThen (a b : Followed α) : Followed α :=
  { reports := a.reports ++ b.reports, verbs := a.verbs ++ b.verbs }

/-- The watch requests after a listing, and whether they make everything start over. -/
def followWatches (d : Json.Decoder (Versioned α)) : List WatchReply → Followed α × Bool
  | [] => ({ reports := [], verbs := [.watch] }, false)
  | reply :: rest =>
      let (lines, closes) : List (Line α) × Bool := match reply with
        | .stream lines closes => (lines.flatMap fun v => linesOf d v.compact, closes)
        | .refused r => (linesOf d r.body.text, true)
      let (reports, again) := followStream lines
      let first : Followed α := { reports := reports, verbs := [.watch] }
      if again then (first, true)
      else if closes then
        let (later, again) := followWatches d rest
        (first.andThen later, again)
      else (first, false)

/-- Follow a collection through sessions.  A listing begins unless another page of one is asked
for. -/
def followFrom (d : Json.Decoder (Versioned α)) (begins : Bool) : List Session → Followed α
  | [] =>
      { reports := if begins then [.ok .listing] else [], verbs := [.get] }
  | session :: rest =>
      let opened : Followed α :=
        { reports := if begins then [.ok .listing] else [], verbs := [.get] }
      let failed (e : WatcherError) : Followed α :=
        let told : Followed α := { reports := [.error e], verbs := [] }
        (opened.andThen told).andThen (followFrom d true rest)
      match session.listing.read (Page.decoder d) with
      | .error e => failed (.listingFailed e)
      | .ok page =>
          if !page.hasVersion && !page.goesOn then failed .noVersion
          else
            let listed : Followed α :=
              { reports := page.objects.map fun a => .ok (.listed a.object), verbs := [] }
            if page.goesOn then (opened.andThen listed).andThen (followFrom d false rest)
            else
              let (watched, again) := followWatches d session.watches
              let done := (opened.andThen listed).andThen
                ({ reports := [.ok .listingDone], verbs := [] } : Followed α) |>.andThen watched
              if again then done.andThen (followFrom d true rest) else done

/-- Follow a collection through sessions. -/
def follow (d : Json.Decoder (Versioned α)) (sessions : List Session) : Followed α :=
  followFrom d true sessions

end Api
end ProvisionWatch

import ProvisionWatch.Text.Split

/-!
# Errors of a watch

What goes wrong while the cluster is asked or watched, and whether a watch can
go on afterwards.  The kind of an error is told by the marks that the cluster
leaves in its message.
-/

namespace ProvisionWatch

/-! ## Kinds -/

/-- What a message of the cluster complains about. -/
inductive WatchErrorKind where
  /-- The right to watch was withdrawn, or a token ran out. -/
  | unauthorized
  /-- The version the watch goes on from is gone. -/
  | expired
  /-- The cluster asks to slow down. -/
  | throttled
  /-- The watched object is gone, or its kind. -/
  | notFound
  | other
deriving DecidableEq, Repr, Inhabited

namespace WatchErrorKind

/-- The name of a kind. -/
def text : WatchErrorKind → String
  | unauthorized => "unauthorized"
  | expired => "expired"
  | throttled => "throttled"
  | notFound => "not_found"
  | other => "other"

/-- Whether a watch can go on. -/
def isTransient : WatchErrorKind → Bool
  | expired | throttled => true
  | _ => false

/-- The marks of a message about missing rights. -/
def unauthorizedMarks : List String := ["401", "403", "Unauthorized", "Forbidden"]

/-- The marks of a message about an old version. -/
def expiredMarks : List String := ["410", "too old resource version", "Expired", "Gone"]

/-- The marks of a message about too many requests. -/
def throttledMarks : List String := ["429", "storage is (re)initializing", "TooManyRequests"]

/-- Whether one of the marks is in a message. -/
def marked (message : String) (marks : List String) : Bool :=
  marks.any fun mark => Text.contains message mark

/-- The kind of a message: the first that has a mark in it. -/
def ofMessage (message : String) : WatchErrorKind :=
  if marked message unauthorizedMarks then unauthorized
  else if marked message expiredMarks then expired
  else if marked message throttledMarks then throttled
  else if Text.contains message "ObjectNotFound" ||
      (Text.contains message "404" && Text.contains message "not found") then notFound
  else other

end WatchErrorKind

/-! ## Errors -/

/-- An error of a request or of a stream. -/
inductive WatchError where
  /-- The cluster refused or failed a request. -/
  | api (message : String)
  /-- The stream reports an error. -/
  | stream (message : String)
  /-- What came could not be read. -/
  | decode (message : String)
deriving DecidableEq, Repr

namespace WatchError

/-- The message alone. -/
def message : WatchError → String
  | api m | stream m | decode m => m

/-- The error in words. -/
def text : WatchError → String
  | api m => "api error: " ++ m
  | stream m => "watch stream error: " ++ m
  | decode m => "decode error: " ++ m

/-- Whether the watch of a resource goes on after the error. -/
def isTransient : WatchError → Bool
  | api m | stream m => (WatchErrorKind.ofMessage m).isTransient
  | decode _ => true

/-- The kind under which the error is recorded: that of its whole text. -/
def recordedKind (e : WatchError) : WatchErrorKind :=
  .ofMessage e.text

end WatchError
end ProvisionWatch

import ProvisionWatch.Metrics

/-!
# Probes

The little web server beside the monitor: whether it is alive, whether it is
ready, and what it counted.  A path that is served answers to reading alone.

Main results:

- Theorem `respond_head`: asking about a page answers what reading it answers, without the page.
-/

namespace ProvisionWatch

/-- What the server knows of the process it speaks for. -/
structure ProbeState where
  ready : Bool
  /-- The text form of what was counted. -/
  metricsText : String
deriving DecidableEq, Repr

/-- A request to the server.  The address may name the server before the path. -/
structure ProbeRequest where
  method : String
  address : String
deriving DecidableEq, Repr

/-- An answer of the server. -/
structure ProbeResponse where
  status : Nat
  contentType : Option String
  /-- The methods a path answers to, if it was asked by another one. -/
  allow : Option String
  body : String
deriving DecidableEq, Repr

namespace ProbeState

/-- The answer with nothing but a status. -/
def bare (status : Nat) : ProbeResponse :=
  { status := status, contentType := none, allow := none, body := "" }

/-- An answer with a text in it. -/
def plainText (form body : String) : ProbeResponse :=
  { status := 200, contentType := some ("text/plain; " ++ form), allow := none, body := body }

/-- The part of an address before a query or a fragment. -/
def beforeMarks (cs : List Char) : List Char :=
  cs.takeWhile fun c => c != '?' && c != '#'

/-- The path in an address.  Behind the name of a server a missing path is the root; a name alone
has no path. -/
def pathOf (address : String) : List Char :=
  match address.toList with
  | '/' :: rest => beforeMarks ('/' :: rest)
  | cs =>
      match Text.cutAt [':', '/', '/'] cs with
      | none => []
      | some (_, rest) =>
          match beforeMarks rest |>.dropWhile fun c => c != '/' with
          | [] => ['/']
          | path => path

/-- What reading an address answers, if its path is served. -/
def read? (s : ProbeState) (address : String) : Option ProbeResponse :=
  match String.ofList (pathOf address) with
  | "/metrics" => some (plainText "version=0.0.4" s.metricsText)
  | "/healthz" => some (plainText "charset=utf-8" "ok")
  | "/readyz" => some (bare (if s.ready then 200 else 503))
  | _ => none

/-- The answer to a request. -/
def respond (s : ProbeState) (r : ProbeRequest) : ProbeResponse :=
  match s.read? r.address with
  | none => bare 404
  | some response =>
      if r.method = "GET" then response
      else if r.method = "HEAD" then { response with body := "" }
      else { bare 405 with allow := some "GET,HEAD" }

/-- Asking about a page answers what reading it answers, without the page. -/
theorem respond_head (s : ProbeState) (address : String) :
    s.respond ⟨"HEAD", address⟩ = { s.respond ⟨"GET", address⟩ with body := "" } := by
  unfold respond
  cases s.read? address <;> rfl

end ProbeState
end ProvisionWatch

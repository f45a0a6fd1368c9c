import ProvisionWatch.Deployment.Codec
import ProvisionWatch.Target
import ProvisionWatch.Text.FormEncoded

/-!
# Requests to the cluster

A request reads an object or a collection once, or watches a collection.  It has
a path and, where only one object of a collection is asked for, a selector.  A
path is used as it is put together from namespace and name: what stands behind
a question mark or a hash mark in it belongs to it no longer.

Main results:

- Theorem `isQueryChar_of_mem_nameSelector`: a selector can stand in a query, whatever the
  name is.
-/

namespace ProvisionWatch
namespace Api

/-- What a request does. -/
inductive Verb where
  /-- Reads once. -/
  | get
  /-- Reads what happens from now on. -/
  | watch
deriving DecidableEq, Repr

/-- The verb as it is written. -/
def Verb.text : Verb → String
  | get => "GET"
  | watch => "WATCH"

/-- The path of the deployments in a namespace. -/
def deploymentsPath (ns : String) : String :=
  "/apis/" ++ Deployment.apiVersion ++ "/namespaces/" ++ ns ++ "/clusterdeployments"

/-- The path of a deployment. -/
def deploymentPath (target : Target) : String :=
  deploymentsPath target.ns ++ "/" ++ target.name

/-- The path of the events in a namespace. -/
def eventsPath (ns : String) : String :=
  "/api/v1/namespaces/" ++ ns ++ "/events"

/-- A request. -/
structure Request where
  verb : Verb
  path : String
  /-- The encoded selector of one object. -/
  selector : Option String
deriving DecidableEq, Repr

/-- The selector of the object with a name. -/
def nameSelector (name : String) : String :=
  Text.formEncoded ("metadata.name=" ++ name)

/-- The part of a path before a query or a fragment. -/
def servedPath (path : String) : String :=
  String.ofList (path.toList.takeWhile fun c => c != '?' && c != '#')

/-- The request as it is written. -/
def Request.text (r : Request) : String :=
  r.verb.text ++ " " ++ servedPath r.path ++
    match r.selector with
    | none => ""
    | some selector => " fieldSelector=" ++ selector

/-- Whether a character can stand in a path.  Quotes and braces can, though they should not. -/
def isPathChar (c : Char) : Bool :=
  let n := c.toNat
  n == 0x21 || n == 0x22 || (0x24 ≤ n && n ≤ 0x3B) || n == 0x3D || (0x40 ≤ n && n ≤ 0x5F) ||
    (0x61 ≤ n && n ≤ 0x7E) || 0x80 ≤ n

/-- Whether a character can stand in a query. -/
def isQueryChar (c : Char) : Bool :=
  let n := c.toNat
  n == 0x21 || (0x24 ≤ n && n ≤ 0x3B) || n == 0x3D || (0x3F ≤ n && n ≤ 0x7E) || 0x80 ≤ n

/-- Whether a path can be asked for. -/
def isSoundPath (path : String) : Bool :=
  let cs := path.toList.takeWhile fun c => c != '#'
  (cs.takeWhile fun c => c != '?').all isPathChar &&
    ((cs.dropWhile fun c => c != '?').drop 1).all isQueryChar

/-- A selector can stand in a query, whatever the name is. -/
theorem isQueryChar_of_mem_nameSelector {name : String} {c : Char}
    (h : c ∈ (nameSelector name).toList) : isQueryChar c = true :=
  Text.of_mem_formEncoded (by decide +kernel) h

end Api
end ProvisionWatch

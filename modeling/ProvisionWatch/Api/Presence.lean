import ProvisionWatch.Api.Watcher
import ProvisionWatch.Subscription.Inputs

/-!
# The presence of a watched deployment

What is reported about a collection with one deployment in it is turned into
changes of that deployment.  A deployment that a new listing does not show
anymore was deleted in the meantime.

Main results:

- Theorem `react_listingDone_of_listed`: a listing that shows the deployment adds
  nothing.
-/

namespace ProvisionWatch
namespace Api

/-- What is known of a watched deployment. -/
structure Presence where
  target : Target
  /-- The deployment when it was seen last, unless it was deleted since. -/
  last : Option Deployment
  /-- Whether the deployment is there. -/
  present : Bool
  /-- Whether the listing at hand has shown it. -/
  listed : Bool

namespace Presence

/-- A deployment that was fetched just now but has not been reported yet. -/
def start (target : Target) : Presence :=
  { target := target, last := none, present := true, listed := false }

/-- The deployment is seen. -/
def see (p : Presence) (d : Deployment) : Presence × Option Change :=
  ({ p with last := some d, present := true },
    some { deployment := d, kind := if p.last.isSome then .modified else .added })

/-- The deployment as it was seen last, or only its name. -/
def remembered (p : Presence) : Deployment :=
  p.last.getD (Deployment.named p.target.ns p.target.name)

/-- Take in a report. -/
def react (p : Presence) : ObjectEvent Deployment → Presence × Option Change
  | .listing => ({ p with listed := false }, none)
  | .listed d => ({ p with listed := true } : Presence).see d
  | .applied d => p.see d
  | .deleted d =>
      ({ p with last := none, present := false }, some { deployment := d, kind := .deleted })
  | .listingDone =>
      if p.listed || !p.present then (p, none)
      else
        ({ p with last := none, present := false },
          some { deployment := p.remembered, kind := .deleted })

/-- Take in reports in order. -/
def reactAll (p : Presence) : List (ObjectEvent Deployment) → Presence × List Change
  | [] => (p, [])
  | e :: rest =>
      let (p, change) := p.react e
      let (p, changes) := p.reactAll rest
      (p, change.toList ++ changes)

/-- A listing that showed the deployment adds nothing when it is done. -/
theorem react_listingDone_of_listed (p : Presence) (h : p.listed = true) :
    p.react .listingDone = (p, none) := by
  simp [react, h]

end Presence
end Api
end ProvisionWatch

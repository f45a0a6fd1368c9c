import ProvisionWatch.Manager.Step
import ProvisionWatch.Metrics

/-!
# Counting what occurs

Each occurrence in a step of the manager is counted, or not, in one way.
-/

namespace ProvisionWatch
namespace Metrics

/-- Count what became of an update. -/
def recordFate (m : Metrics) (u : Update) : Fate → Metrics
  | .published => m.countPublished u.phase.text
  | .refused _ => m.countPublishFailure
  | .coalesced => m.countCoalesced

/-- Count an occurrence. -/
def record (m : Metrics) : Occurrence → Metrics
  | .asked _ => m
  | .returned _ (.subscribed (.error e)) => m.countRejected e.label
  | .returned _ _ => m
  | .opened _ => m.countOpened
  | .delivered _ _ u fate => m.recordFate u fate
  | .watchError _ stream kind => m.countWatchError stream.text kind.text
  | .stalled _ => m.countStall
  | .closed _ ending => m.countClosed ending.text

/-- Count occurrences in order. -/
def recordAll (m : Metrics) (occurred : List Occurrence) : Metrics :=
  occurred.foldl record m

end Metrics
end ProvisionWatch

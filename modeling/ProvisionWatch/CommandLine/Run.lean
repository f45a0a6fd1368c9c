import ProvisionWatch.CommandLine.Arguments
import ProvisionWatch.CommandLine.View
import ProvisionWatch.Manager.Step
import ProvisionWatch.Update.Codec

/-!
# Running a command

A command prints updates and ends with a code: zero, one for a failure or for a
deployment that failed, and two for a command line that makes no sense.  A
failure is shown with its causes, one below the other.
-/

namespace ProvisionWatch
namespace CommandLine

/-! ## Failures -/

/-- Why a command fails. -/
inductive Failure where
  | target (raw : String) (error : RequestError)
  /-- The port of the probes is taken. -/
  | probes
  /-- It is not known how to reach the cluster. -/
  | client
  /-- A pattern of namespaces is not well formed. -/
  | patterns
  | reading (target : Target) (error : MonitorError)
  | subscribing (target : Target) (error : MonitorError)
deriving DecidableEq, Repr

namespace Failure

/-- What failed. -/
def what : Failure → String
  | target raw _ => "Invalid watch target '" ++ raw ++ "'"
  | probes => "HTTP server failed to start"
  | client => "Failed to create Kubernetes client"
  | patterns => "Invalid ALLOWED_NAMESPACES pattern"
  | reading t _ => "Failed to read progress for " ++ t.text
  | subscribing t _ => "Failed to subscribe to " ++ t.text

/-- What it was caused by, and what caused that. -/
def causes : Failure → List String
  | target _ e => [(MonitorError.request e).text]
  | probes | client | patterns => []
  | reading _ e | subscribing _ e => e.text :: e.cause?.toList

/-- The lines of a text behind a mark; the other lines are indented as far. -/
def marked (mark : String) (indent : String) (text : String) : List String :=
  match text.splitOn "\n" with
  | [] => []
  | line :: rest => (mark ++ line) :: rest.map fun l => indent ++ l

/-- One of several causes. -/
def numbered (cause : String × Nat) : List String :=
  let n := Text.natText cause.2
  marked (String.ofList (List.replicate (5 - n.length) ' ') ++ n ++ ": ") "       " cause.1

/-- The causes below each other; several are numbered. -/
def causeLines : List String → List String
  | [] => []
  | [cause] => "" :: "Caused by:" :: marked "    " "    " cause
  | causes => "" :: "Caused by:" :: causes.zipIdx.flatMap numbered

/-- The failure as it is shown. -/
def lines (f : Failure) : List String :=
  marked "Error: " "" f.what ++ causeLines f.causes

end Failure

/-! ## Output -/

/-- What a command printed, and the code it ended with. -/
structure Output where
  exitCode : Nat
  stdout : List String
  stderr : List String
deriving DecidableEq, Repr

/-- The output of a failure. -/
def Failure.output (f : Failure) : Output :=
  { exitCode := 1, stdout := [], stderr := f.lines }

/-- How to call the program. -/
def usage : List String :=
  [ "Usage: cluster-progress-monitor [OPTIONS] <COMMAND>", "",
    "Commands:",
    "  state  Print the current progress of a ClusterDeployment",
    "  watch  Stream progress updates until a terminal update or Ctrl-C", "",
    "Options:",
    "      --pretty  Pretty-print JSON output",
    "  -h, --help    Print help" ]

/-- An update as it is printed. -/
def render (pretty : Bool) (u : Update) : List String :=
  if pretty then u.encode.pretty.splitOn "\n" else [u.encode.compact]

/-- The code after a last update. -/
def exitCode (u : Update) : Nat :=
  if u.phase = .failed then 1 else 0

/-! ## Surroundings -/

/-- What a command finds when it starts. -/
structure Surroundings where
  settings : Settings
  /-- Whether the port of the probes can be served. -/
  portIsFree : Bool
  /-- The cluster, if it is known how to reach it. -/
  cluster : Option ClusterView
  now : Instant

/-- Whether the probes can be served, if they are wanted. -/
def Surroundings.canProbe (s : Surroundings) : Bool :=
  !(ServerConfig.ofSettings s.settings).isEnabled || s.portIsFree

/-- What a manager needs, and the cluster it watches. -/
def prepare (s : Surroundings) (probes : Bool) : Except Failure (Policy × ClusterView) :=
  if probes && !s.canProbe then .error .probes
  else
    match s.cluster with
    | none => .error .client
    | some view =>
        let config := Config.ofSettings s.settings
        match AllowList.read? config.allowedNamespaces with
        | none => .error .patterns
        | some allowList =>
            .ok ({ config := config, rules := Rule.standard, allowList := allowList }, view)

/-! ## Commands -/

/-- A sink that keeps everything. -/
def collector : SinkInterface (List Update) where
  offer world _ _ u := (world ++ [u], none)

/-- A manager with nothing to do. -/
def freshManager (policy : Policy) (now : Instant) : Manager (List Update) :=
  .start now [] (some 0) (.new policy.config.perCallerLimit policy.config.globalLimit)

/-- Let steps take place as far as they are possible, and gather what calls return. -/
def drive (policy : Policy) (m : Manager (List Update)) :
    List Label → Manager (List Update) × List CallResult
  | [] => (m, [])
  | label :: rest =>
      match m.step policy collector label with
      | none => drive policy m rest
      | some (m, occurred) =>
          let (m, results) := drive policy m rest
          (m, (occurred.filterMap fun
            | .returned _ result => some result
            | _ => none) ++ results)

/-- Show the state of a deployment. -/
def runState (s : Surroundings) (pretty : Bool) (target : Target) : Output :=
  match prepare s false with
  | .error f => f.output
  | .ok (policy, view) =>
      let labels : List Label := [.readState 0 target, .fetched 0 (view.fetch target)]
      match (drive policy (freshManager policy s.now) labels).2 with
      | .state (.ok u) :: _ => { exitCode := exitCode u, stdout := render pretty u, stderr := [] }
      | .state (.error e) :: _ => (Failure.reading target e).output
      | _ => { exitCode := 0, stdout := [], stderr := [] }

/-- The updates up to the terminal one. -/
def untilTerminal : List Update → List Update
  | [] => []
  | u :: rest => if u.terminal then [u] else u :: untilTerminal rest

/-- Show updates, and end with the code of the terminal one. -/
def showUpdates (pretty : Bool) (updates : List Update) : Output :=
  let shown := untilTerminal updates
  let last := shown.getLast?.filter fun u => u.terminal
  { exitCode := (last.map exitCode).getD 0
    stdout := shown.flatMap (render pretty)
    stderr := [] }

/-- The steps of one subscription from the call to its last input. -/
def subscriptionSteps (view : ClusterView) (request : SubscribeRequest) : List Label :=
  let target := request.target
  let changes := (view.changes target).map Input.resource
  let events := (view.events target.ns).map Input.event
  let inputs := (changes ++ events).map (Label.arrive target)
  [.subscribe 0 request, .fetched 0 (view.fetch target), .watched 0 (.ok ()),
    .eventsWatched 0 (.ok ()), .listed 0 (view.listEvents target.ns)] ++
    inputs ++ List.replicate (inputs.length + 1) (.work target)

/-- Show the updates of a deployment. -/
def runWatch (s : Surroundings) (pretty : Bool) (raw caller : String) : Output :=
  match Request.read raw with
  | .error e => (Failure.target raw e).output
  | .ok asked =>
      match prepare s true with
      | .error f => f.output
      | .ok (policy, view) =>
          let m := freshManager policy s.now
          let request : SubscribeRequest :=
            { caller := caller, target := asked.target, timeout := asked.timeout }
          let (m, results) := drive policy m (subscriptionSteps view request)
          match results with
          | .subscribed (.error e) :: _ => (Failure.subscribing asked.target e).output
          | _ => showUpdates pretty m.sinks

/-- Run a command line. -/
def run (s : Surroundings) (args : List String) : Output :=
  match read args with
  | .invalid => { exitCode := 2, stdout := [], stderr := usage }
  | .help => { exitCode := 0, stdout := usage, stderr := [] }
  | .invocation i =>
      match i.command with
      | .state target => runState s i.pretty target
      | .watch raw caller => runWatch s i.pretty raw caller

end CommandLine
end ProvisionWatch

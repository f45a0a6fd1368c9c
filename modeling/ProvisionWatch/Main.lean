import ProvisionWatch.CommandLine.Run

/-!
# The program

Reads the command line and the environment, runs the command and prints what it
has to say.  This program has no connection to a cluster of its own: every
request that it makes fails.
-/

namespace ProvisionWatch

/-- The names of the settings. -/
def settingNames : List String :=
  ["DEFAULT_TIMEOUT_SECS", "TIMEOUT_WARNING_SECS", "TICK_INTERVAL_SECS", "STALL_THRESHOLD_SECS",
    "PER_CALLER_SUBSCRIPTION_LIMIT", "GLOBAL_SUBSCRIPTION_LIMIT", "EVENT_RETENTION_COUNT",
    "EVENT_RETENTION_SECS", "EVENT_SNAPSHOT_LIMIT", "ALLOWED_NAMESPACES", "METRICS_PORT"]

/-- The settings of the environment. -/
def environmentSettings : IO Settings := do
  let set ← settingNames.filterMapM fun name => do
    return (← IO.getEnv name).map fun value => (name, value)
  return fun name => set.lookup name

/-- Run the command line. -/
def runProgram (args : List String) : IO UInt32 := do
  let output := CommandLine.run
    { settings := ← environmentSettings
      portIsFree := true
      cluster := some .unreachable
      now := default } args
  for line in output.stdout do
    IO.println line
  for line in output.stderr do
    IO.eprintln line
  return output.exitCode.toUInt32

end ProvisionWatch

/-- The program. -/
def main (args : List String) : IO UInt32 :=
  ProvisionWatch.runProgram args

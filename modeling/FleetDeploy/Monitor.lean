import FleetDeploy.Clock
import FleetDeploy.Config.Basic
import FleetDeploy.Program
import FleetDeploy.Text.Lowercase

/-!
# Waiting for an execution

What has been submitted is waited for by asking the engine where it stands, at fixed intervals. A
query is due at once and after every interval, up to and including the time of the timeout, so that
the number of queries is known beforehand: it is what the recursion is on. The wait ends with the
first status that is terminal, or with the first query that fails; if the last query due shows
nothing terminal, the rest of the time passes and the wait ends with a timeout.

* `Monitor.awaitWithin` – a wait with any interval and any timeout;
* `Monitor.await` – the configured wait, with what timer and clock make of the configured times.
-/

namespace FleetDeploy.Monitor

/-- How many intervals fit into the timeout. An interval of no length, which no valid configuration
has, counts as a millisecond. -/
def intervals (interval timeout : Nat) : Nat := timeout / max interval 1

/-- What a timeout says was waited for. -/
def operation (kind : ExecutionKind) (reference : ExecutionRef) : String :=
  Text.lowercase (kind.word ++ " " ++ reference)

/-- What a terminal status makes of a wait. -/
def conclude (reference : ExecutionRef) (status : ExecutionStatus) : Procedure Unit :=
  if status.isSuccess then pure () else throw (.executionFailed reference status)

/-- Waits while `remaining` intervals are left, asking once more after each of them; `rest` is what
is left of the time after the last query. -/
def poll (interval rest : Nat) (kind : ExecutionKind) (reference : ExecutionRef)
    (remaining : Nat) : Procedure Unit := do
  let status ← Procedure.ask (.executionStatus kind reference)
  if status.isTerminal then conclude reference status
  else match remaining with
    | 0 => do
      Procedure.pause rest
      throw (.timeout (operation kind reference))
    | remaining + 1 => do
      Procedure.pause interval
      poll interval rest kind reference remaining

/-- Waits for an execution, asking every `interval` milliseconds for `timeout` milliseconds. -/
def awaitWithin (interval timeout : Nat) (kind : ExecutionKind) (reference : ExecutionRef) :
    Procedure Unit :=
  let n := intervals interval timeout
  poll interval (timeout - n * interval) kind reference n

/-- The time that passes between two queries, in milliseconds: the configured interval, unless the
timer cuts it short. -/
def gap (config : MonitorConfig) : Nat := Clock.sleepTime config.interval

/-- The time after which an execution is given up, in milliseconds: the configured timeout, unless
the clock cannot show its end. -/
def patience (config : MonitorConfig) : Nat := Clock.limitTime config.timeoutSecs.toNat

/-- Waits for an execution, as configured. -/
def await (config : MonitorConfig) (kind : ExecutionKind) (reference : ExecutionRef) :
    Procedure Unit :=
  awaitWithin (gap config) (patience config) kind reference

theorem gap_of_le {config : MonitorConfig} (h : config.interval ≤ Clock.thirtyYears) :
    gap config = config.interval :=
  Clock.sleepTime_of_le h

end FleetDeploy.Monitor

import FleetDeploy.Fleet.Engine
import FleetDeploy.Fleet.Infrastructure
import FleetDeploy.Fleet.KeySpace
import FleetDeploy.Fleet.Recorders

/-!
# A fleet in memory

All collaborators together, as one state and one handler. Nothing here is real: server groups are
entries of a map, executions follow a script, and a flush removes strings from a set. What is real
is the deployer, which cannot tell the difference; a program run against `Fleet.respond` does what
it would do in earnest, and every call is there to be looked at afterwards.
-/

namespace FleetDeploy

/-- The collaborators of a deployer, in memory. -/
structure Fleet where
  infrastructure : Infrastructure := {}
  engine : Engine := {}
  stager : Recorder := {}
  logs : Recorder := {}
  cache : KeySpace := {}
  /-- The host that tunnels go through. -/
  host : String := "bastion"
  deriving Inhabited

namespace Fleet

/-- How the collaborators answer a call. -/
def respond (c : Call) (f : Fleet) : Reply c × Fleet :=
  match c with
  | .inspect service _ =>
    let (answer, infrastructure) := f.infrastructure.inspect service.name
    (.answered answer, { f with infrastructure })
  | .stage service _ =>
    let (answer, stager) := f.stager.note service.name [stagedProfile service.name]
    (.answered answer, { f with stager })
  | .ensureRunning service _ _ safeToUpdate =>
    let (answer, infrastructure) := f.infrastructure.ensureRunning service.name safeToUpdate
    (match answer with
      | .ok answer => .answered answer
      | .error text => .crashed (some text),
      { f with infrastructure })
  | .deleteVersion service _ version =>
    let (answer, infrastructure) := f.infrastructure.deleteVersion service.name version
    (.answered answer, { f with infrastructure })
  | .submitTask task =>
    let (answer, engine) := f.engine.submitTask task
    (.answered answer, { f with engine })
  | .orchestrate pipeline =>
    let (answer, engine) := f.engine.orchestrate pipeline
    (.answered answer, { f with engine })
  | .executionStatus _ reference =>
    let (status, engine) := f.engine.executionStatus reference
    (.answered (.ok status), { f with engine })
  | .bakeStatuses => (.answered f.engine.bakeStatuses, f)
  | .activeExecutions => (.answered f.engine.activeExecutions, f)
  | .collectLogs service _ =>
    let (answer, logs) := f.logs.note service.name ()
    (.answered answer, { f with logs })
  | .connectCommand service settings =>
    (.answered (tunnelCommand f.host settings service.name), f)
  | .flushKeySpace service _ pattern =>
    let (answer, cache) := f.cache.flush service.name pattern
    (.answered answer, { f with cache })

end Fleet

end FleetDeploy

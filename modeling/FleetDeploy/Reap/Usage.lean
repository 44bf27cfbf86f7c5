import FleetDeploy.Program

/-!
# What is still in use

A server group must not be removed while something runs on one of its instances. The engine tells
what runs by composite identifiers, a unit and the instance it runs on with an `@` between; there
are two such tables, of active executions and of bakes. This file reads the identifiers and adds up
what they say, first by instance and then by version.

The counts have 32 bits, and a deployer adds them up in 32 bits as well. Here the sums are natural
numbers, which is the same as long as none of them reaches `2 ^ 32`, and that is taken for granted
wherever usage is spoken of. A sum that overflows makes a deployer stop, or start again from zero if
it was built without the check, and a version in use might look idle then.
-/

namespace FleetDeploy

/-- How much runs on each instance, which is taken to be less than `2 ^ 32`. An instance that is not
mentioned is idle. -/
abbrev InstanceUsage := SortedMap InstanceId Nat

/-- How much runs on the instances of each version, which is taken to be less than `2 ^ 32`. -/
abbrev VersionUsage := SortedMap Version Nat

namespace Usage

/-- The instance that a composite identifier names: the part after the `@`, provided that there is
exactly one and neither part is empty. -/
def parseInstance? (composite : String) : Option InstanceId :=
  match composite.toList.splitOn '@' with
  | [unit, inst] => if unit.isEmpty || inst.isEmpty then none else some (String.ofList inst)
  | _ => none

/-- The usage with that of one active execution entry added, in a sum that is taken not to
overflow. -/
def addActive (usage : InstanceUsage) (e : String × ActiveExecutions) : InstanceUsage :=
  match parseInstance? e.1 with
  | some inst => usage.alter inst fun n => n.getD 0 + e.2.count.toNat
  | none => usage

/-- How many executions are active on each instance. -/
def ofActive (table : List (String × ActiveExecutions)) : InstanceUsage := table.foldl addActive ∅

/-- The usage with that of one bake added. A bake that is not running uses nothing. -/
def addBake (usage : InstanceUsage) (e : String × BakeStatus) : InstanceUsage :=
  if e.2 = .running then
    match parseInstance? e.1 with
    | some inst => usage.insert inst 1
    | none => usage
  else usage

/-- Which instances run a bake. -/
def ofBakes (table : List (String × BakeStatus)) : InstanceUsage := table.foldl addBake ∅

/-- How much runs on the instances of each version of a service, in sums that are taken not to
overflow either. -/
def byVersion (running : RunningService) (usage : InstanceUsage) : VersionUsage :=
  running.instances.mapValues fun _ instances =>
    instances.members.foldl (fun total i => total + usage.getD i 0) 0

end Usage

/-- Where the usage of a service's instances is learned from. -/
inductive UsageSource
  | activeExecutions
  | bakes
  deriving DecidableEq

/-- Asks for the usage of every instance. -/
def UsageSource.query : UsageSource → Procedure InstanceUsage
  | .activeExecutions => do
    let table ← Procedure.ask .activeExecutions
    pure (Usage.ofActive table)
  | .bakes => do
    let table ← Procedure.ask .bakeStatuses
    pure (Usage.ofBakes table)

end FleetDeploy

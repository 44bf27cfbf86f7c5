import FleetDeploy.Deployer
import FleetDeploy.Fleet.Basic
import FleetDeploy.Proofs.Catalog.Resolving
import FleetDeploy.Proofs.Program.Run

/-!
# Scripts that connect

The operator asks for connections to some services and gets a script, which is run as it is. So it
has a tunnel for each service that was asked for, in the order of the request, and all tunnels but
the last are put in the background, as the script would not get past them otherwise. There is no
script for a part of a request.

Several things may be wrong with a request, and one of them is told. Names that are not in the
catalog come first, wherever they stand in the request, and among services that are known the first
one that cannot be connected to, with the first thing that is missing of it.

* `FleetDeploy.TunnelsTo`, `FleetDeploy.Unreachable` – the command of a tunnel to a service, or what
  is missing of it;
* `FleetDeploy.FirstUnreachable` – the first of some services that cannot be connected to;
* `FleetDeploy.backgrounded` – the lines of a script;
* `FleetDeploy.Catalog.Resolves` – the services of a request, in its order;
* `FleetDeploy.Deployer.Connects`, `FleetDeploy.Deployer.connects_all_or_none` – what becomes of a
  request.
-/

namespace FleetDeploy

/-! ### One tunnel -/

/-- Whether a service can be connected to: it has settings, and a port in them. -/
def Reachable (settings : RuntimeSettings) (s : Service) : Prop :=
  ∃ own port, settings.get? s.name = some own ∧ own.port = some port

/-- **The command of a tunnel to a service** through a host: from the port of the service to the same
port at its address, which is the local one if none is configured. -/
def TunnelsTo (settings : RuntimeSettings) (host : String) (s : Service) (command : String) : Prop :=
  ∃ own port, settings.get? s.name = some own ∧ own.port = some port ∧
    command = "ssh -N -L " ++ Text.natText port.toNat ++ ":" ++ own.address.getD "localhost" ++ ":" ++
      Text.natText port.toNat ++ " " ++ host

/-- **What is missing of a service that cannot be connected to**: its settings, or else the port. -/
inductive Unreachable (settings : RuntimeSettings) (s : Service) : DeployError → Prop
  | unconfigured (missing : settings.get? s.name = none) :
      Unreachable settings s (.missingSettings s.name)
  | portless {own : ServiceSettings} (configured : settings.get? s.name = some own)
      (missing : own.port = none) :
      Unreachable settings s (.collaborator ("no port configured for " ++ s.name))

variable {settings : RuntimeSettings} {host : String} {s : Service} {services : List Service}
  {e : DeployError}

theorem TunnelsTo.reachable {command : String} (tunnels : TunnelsTo settings host s command) :
    Reachable settings s := by
  obtain ⟨own, port, configured, listens, -⟩ := tunnels
  exact ⟨own, port, configured, listens⟩

theorem Unreachable.not_reachable (fault : Unreachable settings s e) : ¬Reachable settings s := by
  rintro ⟨own, port, configured, listens⟩
  cases fault with
  | unconfigured missing =>
    rw [missing] at configured
    cases configured
  | portless configured' missing =>
    obtain rfl := Option.some.inj (configured'.symm.trans configured)
    rw [missing] at listens
    cases listens

/-- Only one thing is told to be missing. -/
theorem Unreachable.unique {e' : DeployError} (fault : Unreachable settings s e)
    (fault' : Unreachable settings s e') : e = e' := by
  cases fault with
  | unconfigured missing =>
    cases fault' with
    | unconfigured missing' => rfl
    | portless configured missing' =>
      rw [missing] at configured
      cases configured
  | portless configured missing =>
    cases fault' with
    | unconfigured missing' =>
      rw [missing'] at configured
      cases configured
    | portless configured' missing' => rfl

/-- **A service either has a tunnel or something is missing of it.** -/
theorem tunnelCommand_cases (settings : RuntimeSettings) (host : String) (s : Service) :
    (∃ command, tunnelCommand host settings s.name = .ok command ∧
      TunnelsTo settings host s command) ∨
    ∃ e, tunnelCommand host settings s.name = .error e ∧ Unreachable settings s e := by
  rw [tunnelCommand]
  rcases configured : settings.get? s.name with _ | own
  · exact Or.inr ⟨_, rfl, .unconfigured configured⟩
  · rcases listens : own.port with _ | port
    · refine Or.inr ⟨_, ?_, .portless configured listens⟩
      simp only [listens]
    · refine Or.inl ⟨_, ?_, own, port, configured, listens, rfl⟩
      simp only [listens]

/-! ### Several tunnels -/

/-- **The first of some services that cannot be connected to**, with what is missing of it. -/
inductive FirstUnreachable (settings : RuntimeSettings) : List Service → DeployError → Prop
  | here {s rest e} (fault : Unreachable settings s e) : FirstUnreachable settings (s :: rest) e
  | later {s rest e} (reachable : Reachable settings s) (first : FirstUnreachable settings rest e) :
      FirstUnreachable settings (s :: rest) e

namespace FirstUnreachable

/-- One service cannot be connected to. -/
theorem not_forall_reachable (first : FirstUnreachable settings services e) :
    ¬∀ s ∈ services, Reachable settings s := by
  induction first with
  | here fault => exact fun all => fault.not_reachable (all _ List.mem_cons_self)
  | later reachable first ih => exact fun all => ih fun s mem => all s (List.mem_cons_of_mem _ mem)

theorem unique {e' : DeployError} (first : FirstUnreachable settings services e)
    (first' : FirstUnreachable settings services e') : e = e' := by
  induction first with
  | here fault =>
    cases first' with
    | here fault' => exact fault.unique fault'
    | later reachable _ => exact absurd reachable fault.not_reachable
  | later reachable first ih =>
    cases first' with
    | here fault' => exact absurd reachable fault'.not_reachable
    | later _ first' => exact ih first'

end FirstUnreachable

/-- Services that have tunnels can be connected to. -/
theorem forall_reachable_of_tunnels {commands : List String}
    (tunnels : List.Forall₂ (TunnelsTo settings host) services commands) :
    ∀ s ∈ services, Reachable settings s := by
  induction tunnels with
  | nil => exact fun s mem => absurd mem List.not_mem_nil
  | cons tunnel _ ih => exact List.forall_mem_cons.mpr ⟨tunnel.reachable, ih⟩

/-! ### Scripts -/

/-- **The lines of a script**: each command but the last is put in the background. -/
def backgrounded : List String → List String
  | [] => []
  | [command] => [command]
  | command :: next :: rest => (command ++ " &") :: backgrounded (next :: rest)

theorem backgrounded_ne_nil (command : String) (rest : List String) :
    backgrounded (command :: rest) ≠ [] := by
  cases rest <;> exact List.cons_ne_nil _ _

/-- **The commands are joined to these lines.** -/
theorem intercalate_backgrounded (commands : List String) :
    " &\n".intercalate commands = "\n".intercalate (backgrounded commands) := by
  induction commands with
  | nil => rfl
  | cons command rest ih =>
    cases rest with
    | nil => rfl
    | cons next rest =>
      rw [String.intercalate_cons_cons, ih, backgrounded,
        String.intercalate_cons_of_ne_nil (backgrounded_ne_nil next rest)]
      simp only [String.append_assoc]
      rfl

/-- Three tunnels, of which the third is left in front. -/
example : backgrounded ["ssh a", "ssh b", "ssh a"] = ["ssh a &", "ssh b &", "ssh a"] := by decide

/-! ### Requests -/

namespace Catalog

/-- **The services of a request, in its order**: without names all entries, and otherwise for each
name, as often as it stands there, the first entry that has it. -/
inductive Resolves (c : Catalog) : List ServiceName → List Service → Prop
  | all : Resolves c [] c.services
  | each {requested services} (named : requested ≠ [])
      (entries : List.Forall₂ (fun name s => c.First (fun t => t.name = name) s) requested services) :
      Resolves c requested services

variable {c : Catalog} {requested : List ServiceName}

/-- **A request is resolved so, and not otherwise.** -/
theorem resolve_eq_ok_iff : c.resolve requested = .ok services ↔ c.Resolves requested services := by
  constructor
  · intro found
    rcases resolve_eq_ok found with ⟨rfl, rfl⟩ | ⟨named, each⟩
    · exact .all
    · exact .each named (each.imp fun name s found => get?_eq_some_iff_first.mp found)
  · rintro (_ | ⟨named, entries⟩)
    · rfl
    · rw [resolve_of_ne_nil named]
      clear named
      induction entries with
      | nil => rfl
      | cons entry _ ih =>
        rw [List.mapM_cons, resolveName_eq_ok_iff.mpr (get?_eq_some_iff_first.mpr entry), ih]
        rfl

/-- A request has one answer. -/
theorem Resolves.unique {services' : List Service} (resolves : c.Resolves requested services)
    (resolves' : c.Resolves requested services') : services = services' := by
  have found := resolve_eq_ok_iff.mpr resolves
  rw [resolve_eq_ok_iff.mpr resolves'] at found
  exact (Except.ok.inj found).symm

/-- A request that has an answer names no unknown service. -/
theorem Resolves.known (resolves : c.Resolves requested services) :
    ∀ name ∈ requested, c.Has name := by
  rcases c.firstUnknown_or_known requested with ⟨name, first⟩ | known
  · have found := resolve_eq_ok_iff.mpr resolves
    rw [resolve_eq_error_iff.mpr ⟨name, first, rfl⟩] at found
    cases found
  · exact known

end Catalog

namespace Deployer

/-! ### What becomes of a request -/

variable {d : Deployer} {requested : List ServiceName} {w : World Fleet}

/-- The action that runs some commands. -/
def actionOf (d : Deployer) (commands : List String) : RemoteAction where
  script := "#!/bin/bash\n" ++ "\n".intercalate (backgrounded commands)
  scriptDescription := d.config.connect.scriptDescription
  autoRun := false

/-- **The commands of some services** are those of their tunnels, or else what is missing of the
first of them that cannot be connected to is told. Nothing changes meanwhile. -/
theorem run_commandsFor (settings : RuntimeSettings) (services : List Service) (w : World Fleet) :
    ∃ w', w'.state = w.state ∧
      ((∃ commands, List.Forall₂ (TunnelsTo settings w.state.host) services commands ∧
        (commandsFor settings services).run.run Fleet.respond w = (.finished (.ok commands), w')) ∨
      ∃ e, FirstUnreachable settings services e ∧
        (commandsFor settings services).run.run Fleet.respond w = (.finished (.error e), w')) := by
  induction services generalizing w with
  | nil => exact ⟨w, rfl, Or.inl ⟨[], .nil, rfl⟩⟩
  | cons s rest ih =>
    have asked := Procedure.run_ask (h := Fleet.respond) (c := .connectCommand s settings) (w := w)
      (s := w.state) rfl
    rcases tunnelCommand_cases settings w.state.host s with
      ⟨command, answered, tunnels⟩ | ⟨e, answered, fault⟩
    · rw [answered] at asked
      rw [commandsFor, Procedure.run_bind_of_ok asked]
      obtain ⟨w', same, ⟨commands, others, ran⟩ | ⟨e, first, ran⟩⟩ := ih
        ⟨w.state, .called (.connectCommand s settings) (.answered (.ok command)) :: w.journal⟩
      · refine ⟨w', same, Or.inl ⟨command :: commands, .cons tunnels others, ?_⟩⟩
        rw [Procedure.run_bind_of_ok ran]
        rfl
      · refine ⟨w', same, Or.inr ⟨e, .later tunnels.reachable first, ?_⟩⟩
        rw [Procedure.run_bind_of_error ran]
    · rw [answered] at asked
      refine ⟨_, ?_, Or.inr ⟨e, .here fault, Procedure.run_bind_of_error asked⟩⟩
      rfl

/-- **All that can become of a request**: it names an unknown service, or one of its services cannot
be connected to, or there is a script with a tunnel to each of them. -/
inductive ConnectOutcome (d : Deployer) (requested : List ServiceName) (settings : RuntimeSettings)
    (host : String) : Except DeployError RemoteAction → Prop
  | unknown {name : ServiceName} (first : d.catalog.FirstUnknown requested name) :
      ConnectOutcome d requested settings host (.error (.unknownService name))
  | unreachable {services : List Service} {e : DeployError}
      (resolves : d.catalog.Resolves requested services)
      (first : FirstUnreachable settings services e) :
      ConnectOutcome d requested settings host (.error e)
  | script {services : List Service} {commands : List String}
      (resolves : d.catalog.Resolves requested services)
      (tunnels : List.Forall₂ (TunnelsTo settings host) services commands) :
      ConnectOutcome d requested settings host (.ok (d.actionOf commands))

theorem exists_connectOutcome (d : Deployer) (requested : List ServiceName)
    (settings : RuntimeSettings) (w : World Fleet) :
    ∃ answer w', (d.connectCommand requested settings).run.run Fleet.respond w =
        (.finished answer, w') ∧ w'.state = w.state ∧
      d.ConnectOutcome requested settings w.state.host answer := by
  rcases resolved : d.catalog.resolve requested with e | services
  · obtain ⟨name, first, rfl⟩ := Catalog.resolve_eq_error_iff.mp resolved
    refine ⟨_, w, ?_, rfl, .unknown first⟩
    rw [connectCommand, resolved]
    rfl
  · have resolves := Catalog.resolve_eq_ok_iff.mp resolved
    have found : (Procedure.ofExcept (d.catalog.resolve requested)).run.run Fleet.respond w =
        (.finished (.ok services), w) := by
      rw [resolved]
      rfl
    rw [connectCommand, Procedure.run_bind_of_ok found]
    obtain ⟨w', same, ⟨commands, tunnels, ran⟩ | ⟨e, first, ran⟩⟩ :=
      run_commandsFor settings services w
    · refine ⟨_, w', ?_, same, .script resolves tunnels⟩
      rw [Procedure.run_bind_of_ok ran, actionOf, ← intercalate_backgrounded]
      rfl
    · exact ⟨_, w', Procedure.run_bind_of_error ran, same, .unreachable resolves first⟩

/-- **What becomes of a request for connections.** There is a script if and only if all names are
known and all services can be connected to; it has a tunnel for each of them, in order. Otherwise an
unknown name is told, the first one in the request, or if there is none what is missing of the first
service that cannot be connected to. Without names the services are all of the catalog, in order of
priority. -/
structure Connects (d : Deployer) (requested : List ServiceName) (settings : RuntimeSettings)
    (host : String) (answer : Except DeployError RemoteAction) : Prop where
  succeeds_iff : (∃ action, answer = .ok action) ↔ (∀ name ∈ requested, d.catalog.Has name) ∧
    ∃ services, d.catalog.Resolves requested services ∧ ∀ s ∈ services, Reachable settings s
  script : ∀ action, answer = .ok action → ∃ services commands,
    d.catalog.Resolves requested services ∧
      List.Forall₂ (TunnelsTo settings host) services commands ∧ action = d.actionOf commands
  unknown : ∀ name, d.catalog.FirstUnknown requested name → answer = .error (.unknownService name)
  unreachable : (∀ name ∈ requested, d.catalog.Has name) → ∀ e, answer = .error e ↔
    ∃ services, d.catalog.Resolves requested services ∧ FirstUnreachable settings services e
  all : requested = [] → ∀ given, d.catalog = .ofList given → ∀ services,
    d.catalog.Resolves requested services → Catalog.Ranks given services

/-- **Connections are scripted for all services of a request or for none.** -/
theorem connects_all_or_none (d : Deployer) (requested : List ServiceName)
    (settings : RuntimeSettings) (w : World Fleet) :
    ∃ answer w', (d.connectCommand requested settings).run.run Fleet.respond w =
        (.finished answer, w') ∧ w'.state = w.state ∧
      d.Connects requested settings w.state.host answer := by
  obtain ⟨answer, w', ran, same, outcome⟩ := exists_connectOutcome d requested settings w
  refine ⟨answer, w', ran, same, ?_, ?_, ?_, ?_, ?_⟩
  · constructor
    · rintro ⟨action, rfl⟩
      cases outcome with
      | script resolves tunnels =>
        exact ⟨resolves.known, _, resolves, forall_reachable_of_tunnels tunnels⟩
    · rintro ⟨known, services, resolves, reachable⟩
      cases outcome with
      | unknown first => exact absurd (known _ first.mem) first.unknown
      | unreachable resolves' first =>
        obtain rfl := resolves.unique resolves'
        exact absurd reachable first.not_forall_reachable
      | script resolves' tunnels => exact ⟨_, rfl⟩
  · rintro action rfl
    cases outcome with
    | script resolves tunnels => exact ⟨_, _, resolves, tunnels, rfl⟩
  · intro name first
    cases outcome with
    | unknown first' => rw [first.unique first']
    | unreachable resolves _ => exact absurd (resolves.known _ first.mem) first.unknown
    | script resolves _ => exact absurd (resolves.known _ first.mem) first.unknown
  · intro known e
    constructor
    · rintro rfl
      cases outcome with
      | unknown first => exact absurd (known _ first.mem) first.unknown
      | unreachable resolves first => exact ⟨_, resolves, first⟩
    · rintro ⟨services, resolves, first⟩
      cases outcome with
      | unknown first' => exact absurd (known _ first'.mem) first'.unknown
      | unreachable resolves' first' =>
        obtain rfl := resolves.unique resolves'
        rw [first.unique first']
      | script resolves' tunnels =>
        obtain rfl := resolves.unique resolves'
        exact absurd (forall_reachable_of_tunnels tunnels) first.not_forall_reachable
  · rintro rfl given ranked services resolves
    cases resolves with
    | all =>
      rw [ranked]
      exact Catalog.ranks_ofList given
    | each named _ => exact absurd rfl named

end Deployer

end FleetDeploy

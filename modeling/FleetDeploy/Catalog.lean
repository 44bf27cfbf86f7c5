import FleetDeploy.Error
import FleetDeploy.Service

/-!
# The catalog

All services that can be managed, in the order in which calls treat them: by descending priority,
and among equals in the order in which they were given. A call names services, or none for all of
them; the catalog turns the request into services in one of two ways.

* `Catalog.prioritized` – the entries that are asked for, in catalog order;
* `Catalog.resolve` – one entry for each name, in the order of the request.
-/

namespace FleetDeploy

/-- The services that can be managed, most important first. -/
structure Catalog where
  services : List Service
  deriving DecidableEq, Inhabited

namespace Catalog

/-- The catalog of some services. -/
def ofList (services : List Service) : Catalog :=
  ⟨services.mergeSort fun a b => decide (b.priority ≤ a.priority)⟩

/-- How many entries there are. -/
def size (c : Catalog) : Nat := c.services.length

/-- Whether there are no entries. -/
def isEmpty (c : Catalog) : Bool := c.services.isEmpty

/-- The first entry of a name. -/
def get? (c : Catalog) (name : ServiceName) : Option Service :=
  c.services.find? fun s => s.name = name

/-- The first entry of a kind. -/
def byKind? (c : Catalog) (kind : ServiceKind) : Option Service :=
  c.services.find? fun s => s.kind = kind

/-- The entries that are asked for, in catalog order; all of them where nothing is asked for. -/
def prioritized (c : Catalog) (requested : List ServiceName) : Except DeployError (List Service) :=
  if requested.isEmpty then .ok c.services
  else match requested.find? fun name => (c.get? name).isNone with
    | some unknown => .error (.unknownService unknown)
    | none => .ok (c.services.filter fun s => requested.contains s.name)

/-- The entry of one name. -/
def resolveName (c : Catalog) (name : ServiceName) : Except DeployError Service :=
  match c.get? name with
  | some service => .ok service
  | none => .error (.unknownService name)

/-- One entry for each name asked for, in the order of the request; all entries where nothing is
asked for. -/
def resolve (c : Catalog) (requested : List ServiceName) : Except DeployError (List Service) :=
  if requested.isEmpty then .ok c.services
  else requested.mapM c.resolveName

end Catalog

end FleetDeploy

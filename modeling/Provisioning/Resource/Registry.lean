import Provisioning.Resource.Basic
set_option autoImplicit false

/-!
# The registry of resources

All resources that propagation and reconciliation know, by name.
-/

namespace Provisioning

/-- Resources by name. -/
structure Registry (σ : Type) where
  resources : Std.ExtTreeMap String (Resource σ) := ∅

namespace Registry

variable {σ : Type}

/-- Add a resource, in the place of one with the same name. -/
def insert (registry : Registry σ) (resource : Resource σ) : Registry σ :=
  { resources := registry.resources.insert resource.name resource }

/-- The resource of a name. -/
def get (registry : Registry σ) (name : String) : Except MappingError (Resource σ) :=
  match registry.resources[name]? with
  | some resource => .ok resource
  | none => .error (.unknownResource name)

/-- The resource of a name together with its mapping of a subject type. -/
def lookup (registry : Registry σ) (name : String) (subjectType : SubjectType) :
    Except MappingError (Resource σ × Mapping) :=
  match registry.get name with
  | .error error => .error error
  | .ok resource =>
    match resource.mapping subjectType with
    | .error error => .error error
    | .ok mapping => .ok (resource, mapping)

/-- The names of all resources, in ascending order. -/
def names (registry : Registry σ) : List String := registry.resources.keys

/-- Bind configured resources to their connectors, one after the other.  Each connector can be bound once, so a
second resource of the same name finds none. -/
def bindAll : List ResourceSettings → Std.ExtTreeMap String (Connector σ) → Registry σ →
    Except MappingError (Registry σ)
  | [], _, registry => .ok registry
  | settings :: rest, connectors, registry =>
    match connectors[settings.name]? with
    | none => .error (.missingConnector settings.name)
    | some connector =>
      match Resource.ofSettings settings connector with
      | .error error => .error error
      | .ok resource => bindAll rest (connectors.erase settings.name) (registry.insert resource)

/-- The registry of the configured resources over the connectors of their names. -/
def ofSettings (settings : List ResourceSettings) (connectors : Std.ExtTreeMap String (Connector σ)) :
    Except MappingError (Registry σ) :=
  bindAll settings connectors {}

end Registry

end Provisioning

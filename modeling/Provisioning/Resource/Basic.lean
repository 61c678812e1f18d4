import Provisioning.Connector.Basic
set_option autoImplicit false

/-!
# Resources

A resource is a connector together with one checked mapping per subject type and with how local changes are
propagated to it.  `Resource.ofSettings` binds a configured resource to its connector.
-/

namespace Provisioning

/-- Whether the caller waits for the propagation to a resource. -/
inductive PropagationMode where
  /-- The caller waits for the outcome. -/
  | sync
  /-- The outcome is only recorded. -/
  | async
  deriving DecidableEq, Repr, Inhabited

instance : Keyword PropagationMode where
  all := [.sync, .async]
  word
    | .sync => "sync"
    | .async => "async"

/-- The mapping of one subject type as it is configured. -/
structure MappingSettings where
  subjectType : SubjectType
  objectClass : String
  items : List Mapping.Item
  deriving DecidableEq, Inhabited

/-- A resource as it is configured. -/
structure ResourceSettings where
  name : String
  /-- Whether a failure on this resource fails the whole operation. -/
  primary : Bool := false
  /-- Order among primary resources, lowest first. -/
  priority : Nat := 0
  mode : PropagationMode := .sync
  mappings : List MappingSettings := []
  deriving DecidableEq, Inhabited

/-- Check one configured mapping of a resource. -/
def MappingSettings.build (settings : MappingSettings) (resource : String) : Except MappingError Mapping :=
  Mapping.build resource settings.subjectType settings.objectClass settings.items

/-- A configured resource bound to a connector. -/
structure Resource (σ : Type) where
  name : String
  connector : Connector σ
  primary : Bool
  priority : Nat
  mode : PropagationMode
  mappings : PerSubject (Option Mapping)

namespace Resource

variable {σ : Type}

/-- Check the configured mappings one after the other and enter them by subject type; a later one replaces an
earlier one. -/
def buildMappings (resource : String) :
    List MappingSettings → PerSubject (Option Mapping) → Except MappingError (PerSubject (Option Mapping))
  | [], table => .ok table
  | settings :: rest, table =>
    match settings.build resource with
    | .error error => .error error
    | .ok mapping => buildMappings resource rest (table.set settings.subjectType (some mapping))

/-- Bind a configured resource to its connector. -/
def ofSettings (settings : ResourceSettings) (connector : Connector σ) : Except MappingError (Resource σ) :=
  match buildMappings settings.name settings.mappings (.const none) with
  | .error error => .error error
  | .ok mappings =>
    .ok { name := settings.name, connector, primary := settings.primary, priority := settings.priority,
          mode := settings.mode, mappings }

/-- The mapping of a subject type. -/
def mapping (resource : Resource σ) (subjectType : SubjectType) : Except MappingError Mapping :=
  match resource.mappings.get subjectType with
  | some mapping => .ok mapping
  | none => .error (.noMapping resource.name subjectType)

/-- The subject types that the resource maps. -/
def mappedTypes (resource : Resource σ) : List SubjectType :=
  SubjectType.all.filter fun t => (resource.mappings.get t).isSome

end Resource

end Provisioning

import Provisioning.Reconciliation.Engine
import Provisioning.Text.Quoted
set_option autoImplicit false

/-!
# Diagnostic texts

How resources, engines and runs present themselves in diagnostics: the name of the kind of thing, and its fields in
braces.
-/

namespace Provisioning

/-- A kind of thing with its fields in braces. -/
def describeFields (kind : String) (fields : List String) : String :=
  kind ++ " \x7b " ++ ", ".intercalate fields ++ " \x7d"

/-- A list of things in brackets. -/
def describeList (items : List String) : String := "[" ++ ", ".intercalate items ++ "]"

variable {σ : Type}

/-- The diagnostic text of a resource. -/
def Resource.describe (resource : Resource σ) : String :=
  describeFields "Resource"
    ["name: " ++ Text.Quoted.encode resource.name,
     "connector: " ++ Text.Quoted.encode resource.connector.name,
     "primary: " ++ toString resource.primary,
     "priority: " ++ toString resource.priority,
     "mode: " ++ Keyword.title resource.mode,
     "mappings: " ++ describeList (resource.mappedTypes.map Keyword.title)]

/-- The diagnostic text of a registry. -/
def Registry.describe (registry : Registry σ) : String :=
  describeFields "ResourceRegistry"
    ["resources: \x7b" ++ ", ".intercalate (registry.resources.toList.map fun (name, resource) =>
      Text.Quoted.encode name ++ ": " ++ resource.describe) ++ "\x7d"]

namespace Reconciliation

/-- The diagnostic text of a result. -/
def Result.describe (result : Result) : String :=
  let operation := match result.operation with
    | .create => "Create"
    | .update => "Update"
    | .delete => "Delete"
    | .none => "None"
  let status := match result.status with
    | .success => "Success"
    | .failure => "Failure"
  let message := match result.message with
    | some message => "Some(" ++ Text.Quoted.encode message ++ ")"
    | none => "None"
  describeFields "SyncResult"
    ["operation: " ++ operation, "status: " ++ status,
     "subject_type: " ++ Keyword.title result.subjectType, "id: " ++ toString result.id,
     "name: " ++ Text.Quoted.encode result.name, "message: " ++ message]

/-- The diagnostic text of what a hook sees. -/
def Profile.describe (profile : Profile σ) : String :=
  describeFields "SyncProfile"
    ["task: " ++ Text.Quoted.encode profile.task.name, "dry_run: " ++ toString profile.dryRun,
     "connector: " ++ Text.Quoted.encode profile.connector.name, "actions: " ++ toString profile.hookCount,
     "results: " ++ describeList (profile.results.map Result.describe), ".."]

/-- The diagnostic text of an engine. -/
def Engine.describe (engine : Engine σ) : String :=
  describeFields "ReconciliationEngine"
    ["resources: " ++ engine.registry.describe, "actions: " ++ toString engine.hooks.length,
     "dry_run: " ++ toString engine.dryRun, "channel_capacity: " ++ toString engine.capacity, ".."]

end Reconciliation

end Provisioning

import Provisioning.Reconciliation.Policy
import Provisioning.Resource.Registry
set_option autoImplicit false

/-!
# Settings

Everything that is configured: resources, sync tasks and switches.  `Settings.validate` checks what can be checked
without a connection to any resource; settings that pass it have a mapping for every sync task.
-/

namespace Provisioning

open Reconciliation

/-- Optional behaviour. -/
inductive Feature where
  /-- Every sync task only pretends. -/
  | dryRun
  /-- Propagation to resources that are not primary is interleaved. -/
  | parallelPropagation
  deriving DecidableEq, Repr, Inhabited

instance : Keyword Feature where
  all := [.dryRun, .parallelPropagation]
  word
    | .dryRun => "dry_run"
    | .parallelPropagation => "parallel_propagation"

/-- Everything that is configured. -/
structure Settings where
  logLevel : Option String := none
  /-- Where sync tokens are kept. -/
  tokenPath : String := "sync_tokens.bin"
  features : List Feature := []
  /-- How many deltas are buffered between a connector and the engine. -/
  capacity : Nat := 64
  resources : List ResourceSettings := []
  tasks : List SyncTask := []
  deriving DecidableEq, Inhabited

/-- What is wrong with settings. -/
inductive SettingsError where
  /-- The file could not be read. -/
  | unreadable
  /-- The file does not hold settings. -/
  | malformed
  | zeroCapacity
  | duplicateResource (resource : String)
  | duplicateMapping (resource : String) (subjectType : SubjectType)
  | mapping (error : MappingError)
  | duplicateTask (task : String)
  | unknownResource (task resource : String)
  | missingMapping (task : String) (subjectType : SubjectType) (resource : String)
  | unknownTask (task : String)
  deriving DecidableEq

/-- The text of an error. -/
def SettingsError.message : SettingsError → String
  | unreadable => "failed to read configuration"
  | malformed => "failed to parse configuration"
  | zeroCapacity => "propagation.channel_capacity must be at least 1"
  | duplicateResource resource => "resource `" ++ resource ++ "` is configured more than once"
  | duplicateMapping resource t => "resource `" ++ resource ++ s!"` maps {t.word} more than once"
  | mapping error => error.message
  | duplicateTask task => "sync task `" ++ task ++ "` is configured more than once"
  | unknownResource task resource => "sync task `" ++ task ++ "` refers to unknown resource `" ++ resource ++ "`"
  | missingMapping task t resource =>
    "sync task `" ++ task ++ s!"` needs a {t.word} mapping on resource `" ++ resource ++ "`"
  | unknownTask task => "no sync task named `" ++ task ++ "`"

namespace Settings

/-- Whether a feature is switched on. -/
def enabled (settings : Settings) (feature : Feature) : Bool := settings.features.contains feature

/-- The configured resource of a name. -/
def resource? (settings : Settings) (name : String) : Option ResourceSettings :=
  settings.resources.find? fun resource => resource.name == name

/-- The configured sync task of a name. -/
def task (settings : Settings) (name : String) : Except SettingsError SyncTask :=
  match settings.tasks.find? fun task => task.name == name with
  | some task => .ok task
  | none => .error (.unknownTask name)

/-- Check the mappings of a resource one after the other; `seen` holds the subject types of those before. -/
def checkMappings (resource : String) :
    (seen : List SubjectType) → List MappingSettings → Except SettingsError Unit
  | _, [] => .ok ()
  | seen, settings :: rest =>
    if seen.contains settings.subjectType then .error (.duplicateMapping resource settings.subjectType)
    else
      match settings.build resource with
      | .error error => .error (.mapping error)
      | .ok _ => checkMappings resource (settings.subjectType :: seen) rest

/-- Check resources one after the other; `seen` holds the names of those before. -/
def checkResources : (seen : List String) → List ResourceSettings → Except SettingsError Unit
  | _, [] => .ok ()
  | seen, resource :: rest =>
    if seen.contains resource.name then .error (.duplicateResource resource.name)
    else
      match checkMappings resource.name [] resource.mappings with
      | .error error => .error error
      | .ok () => checkResources (resource.name :: seen) rest

/-- Check that a sync task has a resource that maps its subject type. -/
def checkTarget (settings : Settings) (task : SyncTask) : Except SettingsError Unit :=
  match settings.resource? task.resource with
  | none => .error (.unknownResource task.name task.resource)
  | some resource =>
    if resource.mappings.any fun mapping => mapping.subjectType == task.subjectType then .ok ()
    else .error (.missingMapping task.name task.subjectType task.resource)

/-- Check sync tasks one after the other; `seen` holds the names of those before. -/
def checkTasks (settings : Settings) : (seen : List String) → List SyncTask → Except SettingsError Unit
  | _, [] => .ok ()
  | seen, task :: rest =>
    if seen.contains task.name then .error (.duplicateTask task.name)
    else
      match settings.checkTarget task with
      | .error error => .error error
      | .ok () => settings.checkTasks (task.name :: seen) rest

/-- Check everything that can be checked without a connection to any resource. -/
def validate (settings : Settings) : Except SettingsError Unit :=
  if settings.capacity = 0 then .error .zeroCapacity
  else
    match checkResources [] settings.resources with
    | .error error => .error error
    | .ok () => settings.checkTasks [] settings.tasks

end Settings

end Provisioning

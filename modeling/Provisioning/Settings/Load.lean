import Provisioning.Document.Json
import Provisioning.Document.Path
import Provisioning.Settings.Decode
set_option autoImplicit false

/-!
# Loading settings

Settings come from a file and are overridden by environment variables: `IDENTITY_SYNC__LOG_LEVEL` replaces
`log_level`, and two underscores inside the rest of a name lead into a table.  Names count in any case.
-/

namespace Provisioning.Settings

/-- What the names of overriding variables start with, in any case. -/
def variableStart : List Char := "identity_sync__".toList

/-- Replace every pair of underscores by a point, from left to right. -/
def dotted : List Char → List Char
  | '_' :: '_' :: rest => '.' :: dotted rest
  | c :: rest => c :: dotted rest
  | [] => []

/-- The path of the setting that a variable overrides, if it overrides one. -/
def overridden? (name : String) : Option String :=
  let name := (Text.lower name).toList
  if variableStart.isPrefixOf name then some (String.ofList (dotted (name.drop variableStart.length))) else none

/-- Enter settings one after the other under their names, which may be paths.  Tables under one name are merged. -/
def ofEntries (entries : List (String × Document)) : Document :=
  entries.foldl (fun document (name, value) => Document.putAt value (Document.readPath name) document) (.table [])

/-- Put the value of an overriding variable into a document. -/
def override (document : Document) (setting : String × String) : Document :=
  match overridden? setting.1 with
  | some path => Document.putAt (.text setting.2) (Document.readPath path) document
  | none => document

/-- The top-level settings of a file, overridden by variables.  All are entered a second time under the names they
have by then: a name that is a path in small letters only leads to its place after all. -/
def gather (entries : List (String × Document)) (environment : List (String × String)) : Document :=
  ofEntries (environment.foldl override (ofEntries entries)).entriesOf

/-- The content of a settings file: a table. -/
def readFile? (content : String) : Option (List (String × Document)) :=
  match Document.Json.parse? content with
  | some (.table entries) => some entries
  | _ => none

/-- Load settings from the content of a file, if there is one, and environment variables. -/
def load (content : Option String) (environment : List (String × String)) : Except SettingsError Settings :=
  match content.bind readFile? with
  | none => .error .unreadable
  | some entries =>
    match Settings.decode .lenient (gather entries environment) with
    | none => .error .malformed
    | some settings =>
      match settings.validate with
      | .error error => .error error
      | .ok () => .ok settings

end Provisioning.Settings

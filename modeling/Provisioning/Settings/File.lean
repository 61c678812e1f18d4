set_option autoImplicit false

/-!
# The settings file

A variable names the file that holds the settings.  The ending of its format may be left out: where there is no file
under the name as given, the name with the ending counts.
-/

namespace Provisioning.Settings

/-- The variable that names the settings file. -/
def fileVariable : String := "IDENTITY_SYNC_CONFIG"

/-- The ending of the names of settings files. -/
def fileEnding : String := ".json"

/-- The path of the settings file: the one that a variable names, or else a path of its own. -/
def filePath (standard : String) (environment : List (String × String)) : String :=
  (environment.lookup fileVariable).getD standard

/-- Whether a part of a path leads nowhere else. -/
def stays (part : String) : Bool := part == "" || part == "."

/-- A path without the parts at its end that lead nowhere else. -/
def trimParts (path : String) : String :=
  "/".intercalate ((path.splitOn "/").reverse.dropWhile stays).reverse

/-- The paths under which a settings file is looked for, in this order. -/
def candidates (path : String) : List String := [path, trimParts path ++ fileEnding]

/-- Whether a path leads to a file in the current directory, if it holds no other directories. -/
def leadsTo (file path : String) : Bool :=
  let parts := path.splitOn "/"
  !path.startsWith "/" && parts.getLast? == some file && (parts.filter fun part => !stays part) == [file]

/-- Whether the settings are read from a file, if it is the only one in the current directory. -/
def readsFrom (file : String) (environment : List (String × String)) : Bool :=
  (candidates (filePath file environment)).any (leadsTo file)

end Provisioning.Settings

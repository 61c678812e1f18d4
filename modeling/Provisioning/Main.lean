import Provisioning.Settings.Check
import Provisioning.Settings.File
set_option autoImplicit false

/-!
# Command line

Checks the settings in the file that the environment names, `config.yaml` if it names none, and prints what they
would do.  The exit code is 1 when they cannot be used.
-/

namespace Provisioning

/-- The variables of a block of `NAME=value` entries, each ended by a zero byte. -/
def environmentEntries (block : String) : List (String × String) :=
  ((block.splitOn "\x00").filter fun entry => entry != "").map fun entry =>
    match entry.splitOn "=" with
    | name :: rest => (name, "=".intercalate rest)
    | [] => (entry, "")

/-- Read a file, if there is one that holds text. -/
def readText? (path : String) : IO (Option String) := do
  try
    let content ← IO.FS.readFile path
    pure (some content)
  catch _ => pure none

end Provisioning

open Provisioning in
/-- Check the settings and print the verdict. -/
def main : IO UInt32 := do
  let environment := environmentEntries ((← readText? "/proc/self/environ").getD "")
  let path := Settings.filePath "config.yaml" environment
  let verdict := Settings.check (← (Settings.candidates path).findSomeM? readText?) environment
  for line in verdict.printed do
    IO.println line
  if let some complaint := verdict.complaint then
    IO.eprintln complaint
  pure (if verdict.usable then 0 else 1)

import Provisioning.Settings.Load
import Provisioning.Text.Printed
import Provisioning.Text.Quoted
set_option autoImplicit false

/-!
# Checking settings before they are deployed

The lines that tell what the settings would do, filtered by the log level that they ask for.  They are coloured
unless a variable says otherwise.
-/

namespace Provisioning.Settings

open Reconciliation

/-- How important a line is. -/
inductive LogLevel where
  | off
  | error
  | warn
  | info
  | debug
  | trace
  deriving DecidableEq, Repr

namespace LogLevel

/-- Every level, from the one that shows least. -/
def all : List LogLevel := [off, error, warn, info, debug, trace]

/-- How much a level shows. -/
def rank : LogLevel → Nat
  | off => 0
  | error => 1
  | warn => 2
  | info => 3
  | debug => 4
  | trace => 5

/-- The word for a level. -/
def word : LogLevel → String
  | off => "OFF"
  | error => "ERROR"
  | warn => "WARN"
  | info => "INFO"
  | debug => "DEBUG"
  | trace => "TRACE"

/-- The number of the colour of a level. -/
def colour : LogLevel → Nat
  | off | error => 31
  | warn => 33
  | info => 32
  | debug => 34
  | trace => 35

/-- Read a level: its number, or its name in any case.  No name at all asks for errors. -/
def parse? (s : String) : Option LogLevel :=
  match (Text.word? s).bind fun n => all[n]? with
  | some level => some level
  | none =>
    if s = "" then some error else all.find? fun level => Text.asciiLower level.word == Text.asciiLower s

end LogLevel

/-- A line of the check. -/
structure Line where
  level : LogLevel
  text : String
  deriving DecidableEq, Repr

/-- Text in a style, such as 2 for faint or 32 for green; the style ends with the text. -/
def styled (style : Nat) (text : String) : String := "\x1b[" ++ toString style ++ "m" ++ text ++ "\x1b[0m"

/-- A line as it is printed.  In colour, the words for the levels are brought to one width. -/
def Line.render (coloured : Bool) (line : Line) : String :=
  let text := Text.Printed.encode line.text
  let level := line.level.word
  if coloured then
    styled line.level.colour ("".pushn ' ' (5 - level.length) ++ level) ++ " " ++ styled 2 "identity_sync"
      ++ styled 2 ":" ++ " " ++ text
  else level ++ " identity_sync: " ++ text

/-- The line on a resource. -/
def resourceLine (resource : ResourceSettings) : Line :=
  ⟨.info, "Resource " ++ resource.name ++ " (primary: " ++ toString resource.primary ++ ", priority: "
    ++ toString resource.priority ++ ", mode: " ++ Keyword.title resource.mode ++ ") maps "
    ++ toString resource.mappings.length ++ " subject type(s)"⟩

/-- The line on a sync task. -/
def taskLine (task : SyncTask) : Line :=
  ⟨.info, "Sync task " ++ task.name ++ " pulls " ++ task.subjectType.word ++ " from " ++ task.resource
    ++ " (matching: " ++ Keyword.title task.matching ++ ", unmatching: " ++ Keyword.title task.unmatching
    ++ ", full: " ++ toString task.full ++ ")"⟩

/-- Every line on the settings. -/
def lines (settings : Settings) : List Line :=
  settings.resources.map resourceLine ++ settings.tasks.map taskLine
    ++ (if settings.enabled .dryRun then [⟨.warn, "Dry run is enabled, no changes will be made"⟩] else [])
    ++ [⟨.info, "Configuration is valid, sync tokens are kept in " ++ Text.Quoted.encode settings.tokenPath⟩]

/-- Whether lines are coloured: unless the variable for that holds something. -/
def coloured (environment : List (String × String)) : Bool := (environment.lookup "NO_COLOR").getD "" == ""

/-- What a check comes to: whether the settings can be used, the lines to print, and what is wrong if there is
anything to say about it. -/
structure Verdict where
  usable : Bool
  printed : List String
  complaint : Option String
  deriving DecidableEq, Repr

/-- Check the content of a settings file together with environment variables.  A log level that cannot be read
makes the settings unusable without a word, because there is no level at which to say so. -/
def check (content : Option String) (environment : List (String × String)) : Verdict :=
  match load content environment with
  | .error error => ⟨false, [], some ("Failed to load config file: " ++ error.message)⟩
  | .ok settings =>
    match (settings.logLevel.map LogLevel.parse?).getD (some .info) with
    | none => ⟨false, [], none⟩
    | some limit =>
      ⟨true, ((lines settings).filter fun line => line.level.rank ≤ limit.rank).map
        (Line.render (coloured environment)), none⟩

end Provisioning.Settings

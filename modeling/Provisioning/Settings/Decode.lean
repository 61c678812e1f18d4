import Provisioning.Document.Basic
import Provisioning.Settings.Basic
import Provisioning.Text.Case
import Provisioning.Text.Numeral
set_option autoImplicit false

/-!
# Decoding settings

From structured data to settings.  A record is a table of its fields, of which unknown ones are ignored, or a list
of them in order.  Strict reading takes every value as it is; lenient reading also converts between texts,
numbers and truth values, and takes keywords in any case, as settings files and environment variables need it.
-/

namespace Provisioning

open Reconciliation

/-- How values are taken. -/
inductive Reading where
  | strict
  | lenient
  deriving DecidableEq, Repr

/-- Turns structured data into a value, if it stands for one. -/
abbrev Decoder (α : Type) : Type := Reading → Document → Option α

namespace Decoder

variable {α : Type}

/-! ## Single values -/

/-- Lenient reading takes integers beyond a signed word as floating-point numbers. -/
def asFloat? (n : Int) : Option Float := if (Text.signedBound : Int) ≤ n then some (Float.ofInt n) else none

/-- A text. -/
def text : Decoder String
  | _, .text s => some s
  | .lenient, .bool b => some (if b then "true" else "false")
  | .lenient, .integer n => some (((asFloat? n).map Document.floatText).getD (toString n))
  | .lenient, .float x => some (Document.floatText x)
  | _, _ => none

/-- A truth value. -/
def bool : Decoder Bool
  | _, .bool b => some b
  | .lenient, .integer n => some (n != 0)
  | .lenient, .float x => some (x != 0)
  | .lenient, .text s =>
    if ["1", "true", "on", "yes"].contains (Text.lower s) then some true
    else if ["0", "false", "off", "no"].contains (Text.lower s) then some false
    else none
  | _, _ => none

/-- The nearest number of an unsigned word, a half going away from zero. -/
def rounded (x : Float) : Nat := x.round.toUInt64.toNat

/-- A whole number below a bound. -/
def natBelow (bound : Nat) : Decoder Nat := fun reading document =>
  let found : Option Nat := match reading, document with
    | .strict, .integer n => if 0 ≤ n then some n.toNat else none
    | .lenient, .integer n => if 0 ≤ n then some (((asFloat? n).map rounded).getD n.toNat) else none
    | .lenient, .bool b => some (if b then 1 else 0)
    | .lenient, .float x => some (rounded x)
    | .lenient, .text s =>
      if ["true", "on", "yes"].contains (Text.lower s) then some 1
      else if ["false", "off", "no"].contains (Text.lower s) then some 0
      else Text.word? s
    | _, _ => none
  found.filter (· < bound)

/-- A value that is named by a keyword; the keyword may also be the only key of a table. -/
def keyword [Keyword α] : Decoder α
  | .strict, .text s => Keyword.parse? s
  | .strict, .table [(key, .null)] => Keyword.parse? key
  | .lenient, .text s => Keyword.all.find? fun a => Keyword.word a == Text.lower s
  | .lenient, .table [(key, _)] => Keyword.all.find? fun a => Keyword.word a == Text.lower key
  | _, _ => none

/-- A value that may be left out. -/
def optional (decoder : Decoder α) : Decoder (Option α)
  | _, .null => some none
  | reading, document => (decoder reading document).map some

/-- A list. -/
def list (decoder : Decoder α) : Decoder (List α)
  | reading, .list items => items.mapM (decoder reading)
  | _, _ => none

/-! ## Records -/

/-- Where the fields of a record are taken from. -/
inductive Source where
  | named (entries : List (String × Document))
  | positional (items : List Document)

/-- Takes fields of a record, one after the other. -/
abbrev Fields (α : Type) : Type := StateT Source Option α

/-- The next field: the one of the given name, or the next in order. -/
def nextField (name : String) : Fields (Option Document) := fun source =>
  match source with
  | .named entries => some (Document.lookup? name entries, source)
  | .positional [] => some (none, source)
  | .positional (item :: rest) => some (some item, .positional rest)

/-- A field that has to be there. -/
def required (reading : Reading) (name : String) (decoder : Decoder α) : Fields α := do
  match ← nextField name with
  | some document => StateT.lift (decoder reading document)
  | none => failure

/-- A field with a value for its absence. -/
def withDefault (reading : Reading) (name : String) (decoder : Decoder α) (absent : α) : Fields α := do
  match ← nextField name with
  | some document => StateT.lift (decoder reading document)
  | none => pure absent

/-- A field that may be missing or empty; in a list it has to be there. -/
def nullable (reading : Reading) (name : String) (decoder : Decoder α) : Fields (Option α) := fun source =>
  match nextField name source with
  | some (some document, source') => (optional decoder reading document).map fun a => (a, source')
  | some (none, .named entries) => some (none, .named entries)
  | _ => none

/-- A record.  Strict reading of a list leaves no item over. -/
def record (fields : Reading → Fields α) : Decoder α := fun reading document =>
  match document with
  | .table entries => ((fields reading).run (.named entries)).map Prod.fst
  | .list items =>
    match (fields reading).run (.positional items) with
    | some (a, .positional (_ :: _)) => if reading = .strict then none else some a
    | answer => answer.map Prod.fst
  | _ => none

end Decoder

open Decoder

/-- Decode a mapping item. -/
def Mapping.Item.decode : Decoder Mapping.Item := record fun reading => do
  let external ← required reading "ext_attr_name" text
  let internal ← withDefault reading "int_attr_name" text ""
  let target ← required reading "int_mapping_type" keyword
  let purpose ← withDefault reading "purpose" keyword .both
  let accountId ← withDefault reading "accountid" bool false
  let password ← withDefault reading "password" bool false
  pure { external, internal, target, purpose, accountId, password }

/-- Decode a mapping. -/
def MappingSettings.decode : Decoder MappingSettings := record fun reading => do
  let subjectType ← required reading "subject_type" keyword
  let objectClass ← required reading "object_class" text
  let items ← required reading "items" (list Mapping.Item.decode)
  pure { subjectType, objectClass, items }

/-- Priorities are words of 32 bits: they stay below this bound. -/
def ResourceSettings.priorityBound : Nat := 4294967296

/-- Decode a resource. -/
def ResourceSettings.decode : Decoder ResourceSettings := record fun reading => do
  let name ← required reading "name" text
  let primary ← withDefault reading "propagation_primary" bool false
  let priority ← withDefault reading "propagation_priority" (natBelow priorityBound) 0
  let mode ← withDefault reading "propagation_mode" keyword .sync
  let mappings ← withDefault reading "mappings" (list MappingSettings.decode) []
  pure { name, primary, priority, mode, mappings }

/-- Decode a sync task. -/
def Reconciliation.SyncTask.decode : Decoder SyncTask := record fun reading => do
  let name ← required reading "name" text
  let resource ← required reading "resource" text
  let subjectType ← required reading "subject_type" keyword
  let matching ← withDefault reading "matching_rule" keyword .update
  let unmatching ← withDefault reading "unmatching_rule" keyword .provision
  let conflicts ← withDefault reading "conflict_policy" keyword .ignore
  let full ← withDefault reading "full_reconciliation" bool false
  let dryRun ← withDefault reading "dry_run" bool false
  let trace ← withDefault reading "trace_level" keyword .summary
  let hookScope ← withDefault reading "hook_error_scope" keyword .delta
  let mayCreate ← withDefault reading "perform_create" bool true
  let mayUpdate ← withDefault reading "perform_update" bool true
  let mayDelete ← withDefault reading "perform_delete" bool true
  pure { name, resource, subjectType, matching, unmatching, conflicts, full, dryRun, trace, hookScope,
         mayCreate, mayUpdate, mayDelete }

/-- Decode the propagation settings: the capacity of the buffer. -/
def Settings.decodeCapacity : Decoder Nat :=
  record fun reading => withDefault reading "channel_capacity" (natBelow Text.wordBound) 64

/-- Decode settings. -/
def Settings.decode : Decoder Settings := record fun reading => do
  let logLevel ← nullable reading "log_level" text
  let tokenPath ← withDefault reading "token_cache_path" text "sync_tokens.bin"
  let features ← withDefault reading "feature_flags" (list keyword) []
  let capacity ← withDefault reading "propagation" Settings.decodeCapacity 64
  let resources ← withDefault reading "resources" (list ResourceSettings.decode) []
  let tasks ← withDefault reading "sync_tasks" (list SyncTask.decode) []
  pure { logLevel, tokenPath, features, capacity, resources, tasks }

end Provisioning

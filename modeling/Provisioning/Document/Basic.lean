import Provisioning.Document.Float
set_option autoImplicit false

/-!
# Documents

Structured data as settings are written in: tables, lists and single values.
-/

namespace Provisioning

/-- A piece of structured data. -/
inductive Document where
  | null
  | bool (b : Bool)
  | integer (n : Int)
  | float (x : Float)
  | text (s : String)
  | list (items : List Document)
  /-- Entries by key, each key once. -/
  | table (entries : List (String × Document))
  deriving Inhabited

namespace Document

/-- Enter a value under a key, in the place of one with the same key. -/
def putEntry (key : String) (value : Document) : List (String × Document) → List (String × Document)
  | [] => [(key, value)]
  | (k, v) :: rest => if k = key then (key, value) :: rest else (k, v) :: putEntry key value rest

/-- The value under a key. -/
def lookup? (key : String) (entries : List (String × Document)) : Option Document := entries.lookup key

/-- The value under a key of a table. -/
def get? (document : Document) (key : String) : Option Document :=
  match document with
  | table entries => lookup? key entries
  | _ => none

end Document

end Provisioning

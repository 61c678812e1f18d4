import Provisioning.Token.Codec
set_option autoImplicit false

/-!
# Token stores in a file

All tokens live in one file, which is read and written as a whole.  A file that does not exist holds no tokens;
one that cannot be read or decoded is an error and stays as it is.
-/

namespace Provisioning

/-- What is found at the path of a token file. -/
inductive FilePlace where
  /-- Nothing, but a file can be written there. -/
  | vacant
  /-- Nothing, and the enclosing directory is missing. -/
  | unreachable
  /-- A directory. -/
  | directory
  | file (content : List UInt8)
  deriving DecidableEq, Repr, Inhabited

namespace FilePlace

/-- The content of the file, if there is one. -/
def content? : FilePlace → Option (List UInt8)
  | file content => some content
  | _ => none

/-- Write a file; `none` if none can be written there. -/
def write? (content : List UInt8) : FilePlace → Option FilePlace
  | vacant | file _ => some (file content)
  | unreachable | directory => none

end FilePlace

namespace TokenFile

/-- Read all tokens. -/
def readTable : FilePlace → Except Failure TokenTable
  | .vacant | .unreachable => .ok ∅
  | .directory => .error ⟨["Is a directory (os error 21)"]⟩
  | .file content =>
    match decode? content with
    | some table => .ok table
    | none => .error ⟨["sync token deserialization failed"]⟩

/-- The token of a task. -/
def load (task : String) : Effect FilePlace Failure (Option SyncToken) := fun place =>
  ((readTable place).map fun table => table[task]?, place)

/-- Keep the token of a task, next to those of the others. -/
def store (task : String) (token : SyncToken) : Effect FilePlace Failure Unit := fun place =>
  match readTable place with
  | .error failure => (.error failure, place)
  | .ok table =>
    match place.write? (encode (table.insert task token)) with
    | some place' => (.ok (), place')
    | none => (.error ⟨["failed to write sync tokens"]⟩, place)

/-- The token store in a file. -/
def tokenStore : TokenStore FilePlace where
  load := load
  store := store

end TokenFile

end Provisioning

import Provisioning.Text.Utf8
import Provisioning.Token.Store
set_option autoImplicit false

/-!
# The token file format

A token file holds a count and then, per token, the name of the task and the token.  Numbers are eight bytes, the
least significant first; a text is its length in bytes and its UTF-8 encoding.  Entries are written in ascending
order of task names.  Reading ignores bytes after the last entry, and of several entries for one task the last
counts.
-/

namespace Provisioning

namespace TokenFile

/-- The lowest `width` bytes of a number, the least significant first. -/
def littleEndian : (width n : Nat) → List UInt8
  | 0, _ => []
  | width + 1, n => UInt8.ofNat (n % 256) :: littleEndian width (n / 256)

/-- Write a number. -/
def encodeWord (n : Nat) : List UInt8 := littleEndian 8 n

/-- Write a text. -/
def encodeText (s : String) : List UInt8 := encodeWord (Text.utf8 s).length ++ Text.utf8 s

/-- Write the entries of a table. -/
def encodeEntries (entries : List (String × SyncToken)) : List UInt8 :=
  entries.flatMap fun (task, token) => encodeText task ++ encodeText token

/-- Write a table. -/
def encode (table : TokenTable) : List UInt8 := encodeWord table.toList.length ++ encodeEntries table.toList

/-- The number that bytes stand for, the least significant first. -/
def littleEndianValue : List UInt8 → Nat
  | [] => 0
  | b :: rest => b.toNat + 256 * littleEndianValue rest

/-- Take the given number of bytes off the front, if there are as many. -/
def takeBytes? (n : Nat) (bytes : List UInt8) : Option (List UInt8 × List UInt8) :=
  if n ≤ bytes.length then some (bytes.take n, bytes.drop n) else none

/-- Read a number off the front. -/
def decodeWord? (bytes : List UInt8) : Option (Nat × List UInt8) :=
  (takeBytes? 8 bytes).map fun (word, rest) => (littleEndianValue word, rest)

/-- Read a text off the front. -/
def decodeText? (bytes : List UInt8) : Option (String × List UInt8) := do
  let (length, rest) ← decodeWord? bytes
  let (content, rest) ← takeBytes? length rest
  let s ← Text.ofUtf8? content
  pure (s, rest)

/-- Read one entry off the front. -/
def decodePair? (bytes : List UInt8) : Option ((String × SyncToken) × List UInt8) := do
  let (task, rest) ← decodeText? bytes
  let (token, rest) ← decodeText? rest
  pure ((task, token), rest)

/-- Read the given number of entries off the front. -/
def decodeEntries? : (count : Nat) → List UInt8 → Option (List (String × SyncToken))
  | 0, _ => some []
  | count + 1, bytes => do
    let (entry, rest) ← decodePair? bytes
    let entries ← decodeEntries? count rest
    pure (entry :: entries)

/-- Read a table. -/
def decode? (bytes : List UInt8) : Option TokenTable := do
  let (count, rest) ← decodeWord? bytes
  let entries ← decodeEntries? count rest
  pure (Std.ExtTreeMap.ofList entries)

end TokenFile

end Provisioning

import Provisioning.Document.Basic
import Provisioning.Text.Case
import Provisioning.Text.Numeral
set_option autoImplicit false

/-!
# Paths into documents

A path such as `propagation.channel_capacity` or `resources[0].name` leads to a place inside a document.  Putting a
value there makes a table or a list of whatever is on the way and is none yet.  Keys on the way and those of a table
that is put under a key are taken in small letters, and such a table is merged into what is there, entry by entry.
An item of a list is taken as it is.
-/

namespace Provisioning.Document

/-- One step of a path. -/
inductive PathStep where
  | key (name : String)
  /-- A position in a list, counted from the end if negative. -/
  | index (n : Int)
  deriving DecidableEq, Repr

/-! ## Reading -/

/-- Whether a character may stand in a key of a path. -/
def isKeyChar (c : Char) : Bool := c.isAlphanum || c == ' ' || c == '_' || c == '-'

/-- Read a key off the front. -/
def pathKey? (cs : List Char) : Option (PathStep × List Char) :=
  match cs.span isKeyChar with
  | ([], _) => none
  | (name, rest) => some (.key (String.ofList name), rest)

/-- Drop the blanks that may surround a position. -/
def skipGap : List Char → List Char := List.dropWhile fun c => c == ' ' || c == '\t'

/-- Read a position and the closing bracket; the opening one has been read.  Positions are signed words. -/
def pathIndex? (cs : List Char) : Option (PathStep × List Char) :=
  let (negative, cs) : Bool × List Char := match skipGap cs with
    | '-' :: rest => (true, rest)
    | rest => (false, rest)
  let (digits, cs) := cs.span Char.isDigit
  match Text.digits? digits, skipGap cs with
  | some size, ']' :: rest =>
    let n : Int := if negative then -(size : Int) else size
    if -(Text.signedBound : Int) ≤ n ∧ n < Text.signedBound then some (.index n, rest) else none
  | _, _ => none

/-- Read the steps after the first one. -/
def pathRest : (fuel : Nat) → List Char → Option (List PathStep)
  | _, [] => some []
  | 0, _ => none
  | fuel + 1, c :: rest =>
    let step? := if c = '.' then pathKey? rest else if c = '[' then pathIndex? rest else none
    match step? with
    | none => none
    | some (step, rest') => (pathRest fuel rest').map (step :: ·)

/-- The steps of a path; a text that is no path is a single key. -/
def readPath (s : String) : List PathStep :=
  match pathKey? s.toList with
  | none => [.key s]
  | some (step, rest) =>
    match pathRest rest.length rest with
    | none => [.key s]
    | some steps => step :: steps

/-! ## Putting a value in its place -/

/-- The entries of a table; nothing else has any. -/
def entriesOf : Document → List (String × Document)
  | table entries => entries
  | _ => []

/-- The items of a list; nothing else has any. -/
def itemsOf : Document → List Document
  | list items => items
  | _ => []

/-- Fill a list up with nulls to a length. -/
def padTo (n : Nat) (items : List Document) : List Document := items ++ List.replicate (n - items.length) .null

mutual

/-- Put a value under a key of a document.  It replaces what is there, but a table is merged into it. -/
def merge (document : Document) (key : String) : (value : Document) → Document
  | table entries =>
    let there := (document.get? (Text.lower key)).getD (.table [])
    .table (putEntry (Text.lower key) (mergeAll there entries) document.entriesOf)
  | value => .table (putEntry (Text.lower key) value document.entriesOf)

/-- Merge entries into a document, one after the other. -/
def mergeAll (document : Document) : List (String × Document) → Document
  | [] => document
  | (key, value) :: rest => mergeAll (merge document key value) rest

end

/-- Put a value at the end of a path: merge it under a key, or make it the item at a position. -/
def putAt (value : Document) : List PathStep → Document → Document
  | [], _ => value
  | [.key name], document => document.merge name value
  | .key name :: rest, document =>
    let place := (document.get? (Text.lower name)).getD .null
    .table (putEntry (Text.lower name) (putAt value rest place) document.entriesOf)
  | .index n :: rest, document =>
    let items := document.itemsOf
    if 0 ≤ n then
      let items := padTo (n.toNat + 1) items
      .list (items.modify n.toNat (putAt value rest))
    else
      let missing := (-n).toNat - items.length
      let items := List.replicate missing .null ++ items
      .list (items.modify (items.length - (-n).toNat) (putAt value rest))

end Provisioning.Document

import Mathlib.Data.List.Infix
import Provisioning.Memory.Tokens
import Provisioning.Proofs.Effect.Frame
import Provisioning.Proofs.Token.Codec
import Provisioning.Token.File
set_option autoImplicit false

/-!
# Tokens in a file

A token file stands for a map from task names to tokens.  Whatever sequence of accesses the file serves, it answers
each of them as the map would, although all that it knows passes through the file every time.  A file that does not
stand for any map, such as one that was cut short while it was written, is reported by every access and stays as it is.
-/

namespace Provisioning

/-! ## Sequences of accesses -/

namespace TokenStore

/-- What is done with a token store. -/
inductive Access where
  | load (task : String)
  | store (task : String) (token : SyncToken)
  /-- Drop the store and open another one on the same place.  A store keeps nothing to itself. -/
  | reopen
  deriving DecidableEq, Repr

/-- What an access is answered. -/
inductive Reply where
  | loaded (answer : Except Failure (Option SyncToken))
  | stored (answer : Except Failure Unit)
  | reopened
  deriving DecidableEq

variable {σ : Type}

/-- Serve one access. -/
def answer (tokens : TokenStore σ) : Access → StateM σ Reply
  | .load task => .loaded <$> tokens.load task
  | .store task token => .stored <$> tokens.store task token
  | .reopen => pure .reopened

/-- Serve accesses one after the other. -/
def serve (tokens : TokenStore σ) : List Access → StateM σ (List Reply)
  | [] => pure []
  | access :: rest => do
    let reply ← tokens.answer access
    let replies ← tokens.serve rest
    pure (reply :: replies)

/-- The token that the access stores for a task. -/
def Access.stored? (task : String) : Access → Option SyncToken
  | .store task' token => if task' = task then some token else none
  | .load _ | .reopen => none

/-- The token that the accesses store last for a task. -/
def lastStored? (task : String) (accesses : List Access) : Option SyncToken :=
  accesses.reverse.findSome? (Access.stored? task)

theorem lastStored?_cons (task : String) (access : Access) (rest : List Access) :
    lastStored? task (access :: rest) = (lastStored? task rest).or (access.stored? task) := by
  rw [lastStored?, lastStored?, List.reverse_cons, List.findSome?_append, List.findSome?_singleton]

variable {tokens : TokenStore σ}

theorem serve_cons (access : Access) (rest : List Access) (s : σ) :
    tokens.serve (access :: rest) s =
      ((tokens.answer access s).1 :: (tokens.serve rest (tokens.answer access s).2).1,
        (tokens.serve rest (tokens.answer access s).2).2) := rfl

theorem serve_append (earlier later : List Access) (s : σ) :
    tokens.serve (earlier ++ later) s =
      ((tokens.serve earlier s).1 ++ (tokens.serve later (tokens.serve earlier s).2).1,
        (tokens.serve later (tokens.serve earlier s).2).2) := by
  induction earlier generalizing s with
  | nil => rfl
  | cons access rest ih => rw [List.cons_append, serve_cons, ih, serve_cons, List.cons_append]

/-- Every access is answered once. -/
theorem length_serve (accesses : List Access) (s : σ) : (tokens.serve accesses s).1.length = accesses.length := by
  induction accesses generalizing s with
  | nil => rfl
  | cons access rest ih => rw [serve_cons, List.length_cons, List.length_cons, ih]

end TokenStore

open TokenStore

/-! ## The map in memory -/

namespace Memory

/-- The map that accesses make of a map. -/
def tableAfter (accesses : List Access) (table : TokenTable) : TokenTable := (tokenStore.serve accesses table).2

theorem tableAfter_cons (access : Access) (rest : List Access) (table : TokenTable) :
    tableAfter (access :: rest) table = tableAfter rest (tokenStore.answer access table).2 := rfl

theorem getElem?_answer (access : Access) (table : TokenTable) (task : String) :
    (tokenStore.answer access table).2[task]? = (access.stored? task).or table[task]? := by
  cases access with
  | load _ | reopen => rfl
  | store task' token =>
    have hinserted : (tokenStore.answer (.store task' token) table).2 = table.insert task' token := rfl
    rw [hinserted, Std.ExtTreeMap.getElem?_insert, Access.stored?]
    by_cases hsame : task' = task <;> simp [hsame, Std.LawfulEqCmp.compare_eq_iff_eq]

/-- The map holds for each task the token that was stored last, and else the one that it held before. -/
theorem getElem?_tableAfter (accesses : List Access) (table : TokenTable) (task : String) :
    (tableAfter accesses table)[task]? = (lastStored? task accesses).or table[task]? := by
  induction accesses generalizing table with
  | nil => rfl
  | cons access rest ih => rw [tableAfter_cons, ih, getElem?_answer, lastStored?_cons, Option.or_assoc]

/-- A load is answered with the token that was stored last for its task. -/
theorem getElem?_serve_load (earlier later : List Access) (task : String) (table : TokenTable) :
    (tokenStore.serve (earlier ++ .load task :: later) table).1[earlier.length]? =
      some (.loaded (.ok ((lastStored? task earlier).or table[task]?))) := by
  have hlength : (tokenStore.serve earlier table).1.length = earlier.length := length_serve earlier table
  rw [serve_append, ← hlength, List.getElem?_append_right le_rfl, Nat.sub_self, serve_cons, List.getElem?_cons_zero,
    ← getElem?_tableAfter]
  rfl

end Memory

/-! ## The file -/

namespace TokenFile

/-- What is found at the path stands for the map: nothing for the empty one, and else a file that starts with what is
written for it. -/
inductive Holds : FilePlace → TokenTable → Prop
  | vacant : Holds .vacant ∅
  | file (table : TokenTable) (trailing : List UInt8) : Holds (.file (encode table ++ trailing)) table

/-- Every map that the accesses make of the map on their way fits the format, as every map does that a memory with
addresses of eight bytes can hold. -/
def FitsThroughout (accesses : List Access) (table : TokenTable) : Prop :=
  ∀ earlier ∈ accesses.inits, Fits (Memory.tableAfter earlier table).toList

instance (accesses : List Access) (table : TokenTable) : Decidable (FitsThroughout accesses table) :=
  inferInstanceAs (Decidable (∀ earlier ∈ accesses.inits, _))

variable {place : FilePlace} {table : TokenTable} {accesses : List Access}

theorem FitsThroughout.first (h : FitsThroughout accesses table) : Fits table.toList :=
  h [] ((List.mem_inits _ _).mpr List.nil_prefix)

theorem FitsThroughout.rest {access : Access} (h : FitsThroughout (access :: accesses) table) :
    FitsThroughout accesses (Memory.tokenStore.answer access table).2 := by
  intro earlier hearlier
  have hstarts := (List.mem_inits _ _).mp hearlier
  exact h (access :: earlier) ((List.mem_inits _ _).mpr (List.cons_prefix_cons.mpr ⟨rfl, hstarts⟩))

theorem Holds.readTable_eq (h : Holds place table) (hfits : Fits table.toList) : readTable place = .ok table := by
  cases h with
  | vacant => rfl
  | file trailing => simp only [readTable, decode?_encode_append hfits]

theorem Holds.write?_eq (h : Holds place table) (content : List UInt8) :
    place.write? content = some (.file content) := by
  cases h <;> rfl

/-- The file answers an access as the map does, and stands for what the map has become afterwards. -/
theorem Holds.answer (h : Holds place table) (hfits : Fits table.toList) (access : Access) :
    (tokenStore.answer access place).1 = (Memory.tokenStore.answer access table).1 ∧
      Holds (tokenStore.answer access place).2 (Memory.tokenStore.answer access table).2 := by
  cases access with
  | load task =>
    have hload : load task place = (.ok table[task]?, place) := by
      simp only [load, h.readTable_eq hfits, Except.map]
    simp only [TokenStore.answer, tokenStore, map_apply, hload]
    exact ⟨rfl, h⟩
  | store task token =>
    have hstore : store task token place = (.ok (), .file (encode (table.insert task token))) := by
      simp only [store, h.readTable_eq hfits, h.write?_eq]
    simp only [TokenStore.answer, tokenStore, map_apply, hstore]
    refine ⟨rfl, ?_⟩
    have hwritten := Holds.file (table.insert task token) []
    rwa [List.append_nil] at hwritten
  | reopen => exact ⟨rfl, h⟩

theorem Holds.serve (h : Holds place table) (hfits : FitsThroughout accesses table) :
    (tokenStore.serve accesses place).1 = (Memory.tokenStore.serve accesses table).1 ∧
      Holds (tokenStore.serve accesses place).2 (Memory.tableAfter accesses table) := by
  induction accesses generalizing place table with
  | nil => exact ⟨rfl, h⟩
  | cons access rest ih =>
    obtain ⟨hreply, hafter⟩ := h.answer hfits.first access
    obtain ⟨hreplies, hheld⟩ := ih hafter hfits.rest
    rw [serve_cons, serve_cons, hreply, hreplies]
    exact ⟨rfl, hheld⟩

/-- A token store in a file that stands for a map answers every sequence of accesses as the map would.  In particular
each load returns the token that was stored last for its task, and if none was, the one that the map held at first. -/
theorem tokenStore_refines_map (h : Holds place table) (hfits : FitsThroughout accesses table) :
    let served := tokenStore.serve accesses place
    served.1 = (Memory.tokenStore.serve accesses table).1 ∧
      Holds served.2 (Memory.tableAfter accesses table) ∧
      ∀ earlier task later, accesses = earlier ++ .load task :: later →
        served.1[earlier.length]? = some (.loaded (.ok ((lastStored? task earlier).or table[task]?))) := by
  intro served
  obtain ⟨hreplies, hheld⟩ := h.serve hfits
  refine ⟨hreplies, hheld, ?_⟩
  rintro earlier task later rfl
  rw [show served.1 = _ from hreplies]
  exact Memory.getElem?_serve_load earlier later task table

/-- The token of one task. -/
def rolesToken : TokenTable := Std.ExtTreeMap.ofList [("ldap-roles", "7")]

/-- Tokens of two tasks are stored, one of them twice and the other one without a text, and loaded again. -/
def nightlyAccesses : List Access :=
  [.store "ldap-users" "42", .store "Büro" "", .reopen, .store "ldap-users" "43", .load "ldap-users", .load "Büro",
    .load "ldap-roles", .load "crm"]

theorem tokens_kept_per_task :
    FitsThroughout nightlyAccesses rolesToken ∧
      (tokenStore.serve nightlyAccesses (.file (encode rolesToken ++ [0xff, 0]))).1.drop 4 =
        [.loaded (.ok (some "43")), .loaded (.ok (some "")), .loaded (.ok (some "7")), .loaded (.ok none)] := by
  have hfits : FitsThroughout nightlyAccesses rolesToken := by decide +kernel
  obtain ⟨hreplies, -, -⟩ := tokenStore_refines_map (.file rolesToken [0xff, 0]) hfits
  refine ⟨hfits, ?_⟩
  rw [hreplies]
  decide +kernel

/-! ## Damaged files -/

/-- The content of a file that does not stand for any map. -/
inductive Damaged : List UInt8 → Prop
  /-- Writing was cut short, maybe before the first byte. -/
  | truncated {content : List UInt8} (table : TokenTable) (hfits : Fits table.toList)
      (hstarts : content <+: encode table) (hcut : content ≠ encode table) : Damaged content
  | undecodable {content : List UInt8} (h : decode? content = none) : Damaged content

theorem Damaged.decode?_eq_none {content : List UInt8} (h : Damaged content) : decode? content = none := by
  cases h with
  | truncated table hfits hstarts hcut => exact decode?_truncated hfits hstarts hcut
  | undecodable h => exact h

/-- A damaged file is read as no map at all.  Every access reports it, and none writes to it. -/
theorem damaged_file_kept {content : List UInt8} (h : Damaged content) (task : String) (token : SyncToken) :
    let failure : Failure := ⟨["sync token deserialization failed"]⟩
    decode? content = none ∧
      tokenStore.load task (.file content) = (.error failure, .file content) ∧
      tokenStore.store task token (.file content) = (.error failure, .file content) := by
  intro failure
  have hread : readTable (.file content) = .error failure := by
    simp only [readTable, h.decode?_eq_none]
    rfl
  refine ⟨h.decode?_eq_none, ?_, ?_⟩
  · simp only [tokenStore, load, hread]
    rfl
  · simp only [tokenStore, store, hread]

/-- The tokens of two tasks, of whose file the last twelve bytes are missing. -/
theorem cut_file_kept :
    let table := rolesToken.insert "ldap-users" "42"
    let content := (encode table).take ((encode table).length - 12)
    content ≠ encode table ∧
      tokenStore.load "ldap-roles" (.file content) =
        (.error ⟨["sync token deserialization failed"]⟩, .file content) ∧
      tokenStore.store "ldap-roles" "8" (.file content) =
        (.error ⟨["sync token deserialization failed"]⟩, .file content) := by
  intro table content
  have hcut : content ≠ encode table := by decide +kernel
  have hdamaged : Damaged content := .truncated table (by decide +kernel) (List.take_prefix _ _) hcut
  exact ⟨hcut, (damaged_file_kept hdamaged "ldap-roles" "8").2⟩

end TokenFile

end Provisioning

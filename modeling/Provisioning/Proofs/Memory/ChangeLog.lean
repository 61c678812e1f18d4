import Provisioning.Proofs.Memory.Objects
import Provisioning.Proofs.Text.Numeral
set_option autoImplicit false

/-!
# The log of changes of a resource in memory

No call to the resource touches its log.  A token is the number of changes before a position, in decimal; a pull
after it sends all of the log but that many of its first changes.
-/

namespace Provisioning.Memory

/-- The token marks the position after the first `n` changes; no token marks the beginning. -/
def Marks (token : Option SyncToken) (n : Nat) : Prop :=
  (token = none ∧ n = 0) ∨ token = some (toString n)

namespace Directory

/-- No elementary change to the resource touches its log. -/
theorem undisturbed_changes : Undisturbed (Frame.unchanged changes) where
  record _ _ := rfl
  insert _ _ := rfl
  erase _ _ := rfl

/-- A pull from a marked position sends what the log holds from there on, or fails before the first change. -/
theorem sync_deltas {token : Option SyncToken} {n : Nat} (h : Marks token n) (directory : Directory) :
    let emission := (sync token directory).1
    emission.deltas = directory.changes.drop n ∨ emission.deltas = [] ∧ emission.outcome ≠ .ok () := by
  rcases h with ⟨rfl, rfl⟩ | rfl
  · exact .inl rfl
  · unfold sync
    dsimp only
    split
    · rename_i m hread
      rw [Text.eq_of_word?_toString hread]
      exact .inl rfl
    · exact .inr ⟨rfl, fun hok => nomatch hok⟩

end Directory

end Provisioning.Memory

import Provisioning.Proofs.Effect.Alike
set_option autoImplicit false

/-!
# Something beside a world

Something may be put beside a world, to be looked at and written by nobody but a bystander.  Operations on the first
half of a pair are then alike to those on the world itself, and stay so if the bystander notes what they answer.
-/

namespace Provisioning

variable {σ ρ α β : Type}

namespace Lens

/-- The first half of a pair. -/
def first : Lens (σ × ρ) σ where
  get pair := pair.1
  set s pair := (s, pair.2)

/-- The second half of a pair. -/
def second : Lens (σ × ρ) ρ where
  get pair := pair.2
  set r pair := (pair.1, r)

theorem first_carries : (first : Lens (σ × ρ) σ).Carries Frame.anything (Frame.unchanged Prod.snd) :=
  fun _ _ _ => rfl

end Lens

/-- The first half of a pair is the given world. -/
def Beside (s : σ) (pair : σ × ρ) : Prop := pair.1 = s

theorem alike_within (operation : StateM σ α) :
    Alike (Beside : σ → σ × ρ → Prop) operation (Lens.first.zoom operation) := by
  rintro s ⟨_, _⟩ rfl
  exact ⟨rfl, rfl⟩

/-- Operate on a world, and add a note of the answer to those beside it. -/
def noted (note : α → β) (operation : StateM σ α) : StateM (σ × List β) α := fun pair =>
  let answered := operation pair.1
  (answered.1, (answered.2, pair.2 ++ [note answered.1]))

theorem alike_noted (note : α → β) (operation : StateM σ α) : Alike Beside operation (noted note operation) := by
  rintro s ⟨_, _⟩ rfl
  exact ⟨rfl, rfl⟩

/-- Operate on a world, and add a note of the answer to those beside it, if one is to be taken. -/
def notedIf (note : Option (α → β)) (operation : StateM σ α) : StateM (σ × List β) α :=
  match note with
  | none => Lens.first.zoom operation
  | some note => noted note operation

theorem alike_notedIf (note : Option (α → β)) (operation : StateM σ α) :
    Alike Beside operation (notedIf note operation) := by
  cases note with
  | none => exact alike_within operation
  | some note => exact alike_noted note operation

end Provisioning

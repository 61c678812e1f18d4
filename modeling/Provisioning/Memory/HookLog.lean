import Provisioning.Reconciliation.Hooks
import Provisioning.Text.Blank
set_option autoImplicit false

/-!
# Recording hooks

Hooks that note every call with the name of what it is about, and of which one chosen hook fails.
-/

namespace Provisioning.Memory.HookLog

open Reconciliation

/-- Note a call of a hook, and fail if it is the chosen one. -/
def called (failing : Option Hook) (hook : Hook) (subject : String) : Effect (List String) Failure Unit := fun log =>
  let noted := log ++ [Text.trimEnd (Keyword.word hook ++ " " ++ subject)]
  if failing = some hook then (.error ⟨[Keyword.word hook ++ " refused " ++ subject]⟩, noted) else (.ok (), noted)

/-- The recording hooks, whose notes are a part of the world; the chosen hook fails. -/
def hooks {σ : Type} (lens : Lens σ (List String)) (failing : Option Hook) : Hooks σ where
  beforeAll profile := lens.zoom (called failing .beforeAll profile.task.name)
  beforeNew hook _ delta entity := fun s =>
    let (answer, s') := lens.zoom (called failing (.beforeNew hook) entity.name) s
    ((answer.map fun _ => delta, entity), s')
  beforeExisting hook _ delta entity :=
    lens.zoom ((called failing (.beforeExisting hook) entity.name).mapOk fun _ => delta)
  after _ _ _ result := lens.zoom (called failing .after result.name)
  afterAll profile := lens.zoom (called failing .afterAll profile.task.name)

end Provisioning.Memory.HookLog

import Provisioning.Delta
import Provisioning.Effect
import Provisioning.Failure
set_option autoImplicit false

/-!
# Token stores

The contract to where sync tokens are kept between runs, under the name of the sync task.
-/

namespace Provisioning

/-- Tokens by task name. -/
abbrev TokenTable : Type := Std.ExtTreeMap String SyncToken

/-- Where sync tokens are kept. -/
structure TokenStore (σ : Type) where
  /-- The last stored token of a task. -/
  load : (task : String) → Effect σ Failure (Option SyncToken)
  /-- Keep the token of a task. -/
  store : (task : String) → SyncToken → Effect σ Failure Unit

/-- A token store that lives in a part of a larger world. -/
def TokenStore.within {σ τ : Type} (lens : Lens σ τ) (store : TokenStore τ) : TokenStore σ where
  load task := lens.zoom (store.load task)
  store task token := lens.zoom (store.store task token)

end Provisioning

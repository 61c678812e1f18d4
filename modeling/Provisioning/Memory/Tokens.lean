import Provisioning.Token.Store
set_option autoImplicit false

/-!
# A token store in memory

Tokens in a map.
-/

namespace Provisioning.Memory

/-- The token store in memory. -/
def tokenStore : TokenStore TokenTable where
  load task := fun tokens => (.ok tokens[task]?, tokens)
  store task token := fun tokens => (.ok (), tokens.insert task token)

end Provisioning.Memory

set_option autoImplicit false

/-!
# Failures of outside systems

Hooks, sinks and token files fail with a chain of texts: what was being done, and beneath it why it did not work.
-/

namespace Provisioning

/-- A failure with its causes, the outermost first. -/
structure Failure where
  causes : List String
  deriving DecidableEq, Repr, Inhabited

namespace Failure

/-- The outermost text. -/
def headline (failure : Failure) : String := failure.causes.headD ""

/-- The whole chain. -/
def message (failure : Failure) : String := ": ".intercalate failure.causes

end Failure

end Provisioning

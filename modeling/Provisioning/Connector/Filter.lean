import Provisioning.Attributes
set_option autoImplicit false

/-!
# Search filters

Conditions on the attributes of remote objects.
-/

namespace Provisioning

/-- A condition on an attribute set. -/
inductive Filter where
  /-- Some value of the attribute is alike to the given one. -/
  | equals (name : String) (value : Value)
  | and (left right : Filter)
  | or (left right : Filter)
  deriving DecidableEq, Inhabited

/-- Whether the attributes fulfil the condition. -/
def Filter.matches : Filter → Attributes → Bool
  | equals name value, attributes => attributes.holds name value
  | and left right, attributes => left.matches attributes && right.matches attributes
  | or left right, attributes => left.matches attributes || right.matches attributes

end Provisioning

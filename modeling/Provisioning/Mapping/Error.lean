import Provisioning.Entity.SubjectType
set_option autoImplicit false

/-!
# Mapping errors

What can be wrong with the mappings of a resource, or with looking one up.
-/

namespace Provisioning

/-- Invalid or missing mapping configuration. -/
inductive MappingError where
  /-- No item is flagged as account id. -/
  | missingAccountId (resource : String) (subjectType : SubjectType)
  /-- More than one item is flagged as account id. -/
  | multipleAccountIds (resource : String) (subjectType : SubjectType)
  /-- The account id item is virtual or the password. -/
  | invalidAccountId (resource external : String)
  /-- More than one item carries the password. -/
  | multiplePasswords (resource : String)
  /-- An item is flagged as password without targeting it, or the reverse. -/
  | invalidPassword (resource external : String)
  /-- The resource is not known. -/
  | unknownResource (resource : String)
  /-- No connector was bound to a configured resource. -/
  | missingConnector (resource : String)
  /-- The resource does not map the subject type. -/
  | noMapping (resource : String) (subjectType : SubjectType)
  deriving DecidableEq, Repr

namespace MappingError

/-- The text of an error. -/
def message : MappingError → String
  | missingAccountId resource t => s!"no account id mapping item for {t.word} on resource `" ++ resource ++ "`"
  | multipleAccountIds resource t =>
    s!"more than one account id mapping item for {t.word} on resource `" ++ resource ++ "`"
  | invalidAccountId resource external =>
    "mapping item `" ++ external ++ "` on resource `" ++ resource ++ "` cannot be the account id"
  | multiplePasswords resource => "more than one password mapping item on resource `" ++ resource ++ "`"
  | invalidPassword resource external =>
    "mapping item `" ++ external ++ "` on resource `" ++ resource ++ "` mixes password and non-password"
  | unknownResource resource => "unknown resource `" ++ resource ++ "`"
  | missingConnector resource => "no connector bound to resource `" ++ resource ++ "`"
  | noMapping resource t => "resource `" ++ resource ++ s!"` has no mapping for {t.word}"

end MappingError

end Provisioning

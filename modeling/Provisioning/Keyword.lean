set_option autoImplicit false

/-!
# Keywords

Alternatives that settings name by a keyword, such as `first_match`.  Where an alternative is displayed, its
keyword appears as a title: `FirstMatch`.
-/

namespace Provisioning

/-- A type whose values are named by keywords. -/
class Keyword (α : Type) where
  /-- Every value. -/
  all : List α
  /-- The keyword of a value: small letters, with underscores between words. -/
  word : α → String

namespace Keyword

variable {α : Type} [Keyword α]

/-- The value that a keyword names. -/
def parse? (s : String) : Option α := all.find? fun a => word a == s

/-- Drop the underscores and capitalise the letter at the start and after each of them. -/
def titleChars : (start : Bool) → List Char → List Char
  | _, [] => []
  | _, '_' :: rest => titleChars true rest
  | true, c :: rest => c.toUpper :: titleChars false rest
  | false, c :: rest => c :: titleChars false rest

/-- A value as it is displayed. -/
def title (a : α) : String := String.ofList (titleChars true (word a).toList)

end Keyword

end Provisioning

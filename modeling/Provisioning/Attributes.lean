import Provisioning.Value
import Std.Data.ExtTreeMap
import Std.Data.ExtTreeSet
set_option autoImplicit false

/-!
# Attribute sets

A named set of multi-valued attributes, ordered by name, so that payloads, differences and reports come out the
same way every time.  Two sets are equal as soon as they look up equal.
-/

namespace Provisioning

/-- A set of names, listed in ascending order of their characters. -/
abbrev NameSet := Std.ExtTreeSet String

/-- Attributes by name; an attribute may be present without a value. -/
abbrev Attributes := Std.ExtTreeMap String (List Value)

instance : DecidableEq Attributes := fun a b => inferInstanceAs (Decidable (a = b))

/-- The set of the names in a list. -/
def NameSet.ofList (names : List String) : NameSet := Std.ExtTreeSet.ofList names

namespace Attributes

/-- The attributes of a list of pairs; of several pairs with one name the last counts. -/
def ofPairs (pairs : List (String × List Value)) : Attributes := Std.ExtTreeMap.ofList pairs

/-- The text of an attribute's first value. -/
def firstText? (attributes : Attributes) (name : String) : Option String :=
  attributes[name]?.bind Provisioning.firstText?

/-- The names that are present, with or without a value. -/
def names (attributes : Attributes) : NameSet := NameSet.ofList attributes.keys

/-- Put the second set over the first: its values win, name by name. -/
def overlay (base top : Attributes) : Attributes := base ∪ top

/-- Whether some value of the attribute is alike to `value`. -/
def holds (attributes : Attributes) (name : String) (value : Value) : Bool :=
  (attributes[name]?.getD []).any value.alike

end Attributes

end Provisioning

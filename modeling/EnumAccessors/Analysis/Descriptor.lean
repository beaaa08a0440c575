import EnumAccessors.Metadata.EnumType
import EnumAccessors.Naming.Casing

/-!
# Descriptors

What the analysis makes of an enumeration type: names that are fit for generated code, flags in
the order of the members, and groups with the members that belong to them.
-/

namespace EnumAccessors

/-- A member of a type, as accessors see it. -/
structure Flag where
  name : String
  displayName : Option String := none
  isExcluded : Bool := false
  /-- Takes the place of the type's prefix for this member. -/
  accessorPrefix : Option String := none
  /-- The declared groups that the member belongs to. -/
  groups : List String := []
  deriving DecidableEq

namespace Flag

/-- The name that the accessor is called after. -/
def accessorName (f : Flag) : String := f.displayName.getD f.name

/-- The flag's own prefix, or else the type's. -/
def prefixOr (f : Flag) (typePrefix : String) : String := f.accessorPrefix.getD typePrefix

end Flag

/-- A group of members. -/
structure Group where
  name : String
  accessorPrefix : String
  /-- The names of the members, in the order of their declaration. -/
  members : List String
  deriving DecidableEq

/-- An enumeration type that has been analyzed. -/
structure Descriptor where
  name : String
  scope : String
  fullName : String
  accessibility : Accessibility
  isFlags : Bool
  accessorPrefix : String
  naming : Naming
  flags : List Flag
  groups : List Group
  deriving DecidableEq

namespace Descriptor

/-- The prefix of flags where none is given. -/
def defaultFlagPrefix : String := "Has"

/-- The prefix of groups where none is given. -/
def defaultGroupPrefix : String := "Is"

/-- The name of the class that holds the accessors. -/
def extensionName (d : Descriptor) : String := d.name ++ "Extensions"

/-- The access modifier of the class and its accessors. -/
def access (d : Descriptor) : String :=
  if d.accessibility = .public then "public" else "internal"

/-- The first flag of a name. -/
def flag? (d : Descriptor) (name : String) : Option Flag := d.flags.find? fun f => f.name == name

/-- The first group of a name. -/
def group? (d : Descriptor) (name : String) : Option Group :=
  d.groups.find? fun g => g.name == name

end Descriptor

end EnumAccessors

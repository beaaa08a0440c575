import EnumAccessors.Metadata.Attribute

/-!
# Enumeration types and compilations

Enumeration types as the host hands them over, with their members and everything that was written
on either, and the compilation that holds all declarations of one pass.

On a type the groups are declarations, on a member they are references to declared groups.
-/

namespace EnumAccessors

/-- The declared accessibility of a type. -/
inductive Accessibility where
  | «public»
  | internal
  | «protected»
  | «private»
  | protectedInternal
  | privateProtected
  deriving DecidableEq, Repr

namespace Accessibility

/-- Only public and internal types get accessors. -/
def isEligible : Accessibility → Bool
  | «public» | internal => true
  | _ => false

/-- The accessibilities by their names in metadata. -/
def names : List (String × Accessibility) :=
  [("public", «public»), ("internal", internal), ("protected", «protected»),
   ("private", «private»), ("protectedInternal", protectedInternal),
   ("privateProtected", privateProtected)]

/-- The name in metadata. -/
def name : Accessibility → String
  | «public» => "public"
  | internal => "internal"
  | «protected» => "protected"
  | «private» => "private"
  | protectedInternal => "protectedInternal"
  | privateProtected => "privateProtected"

/-- An accessibility is found again by its name. -/
@[simp] theorem lookup_names (a : Accessibility) : names.lookup a.name = some a := by
  cases a <;> rfl

/-- The name in the log. -/
def title : Accessibility → String
  | «public» => "Public"
  | internal => "Internal"
  | «protected» => "Protected"
  | «private» => "Private"
  | protectedInternal => "ProtectedInternal"
  | privateProtected => "PrivateProtected"

end Accessibility

/-- A member of an enumeration type and what was written on it. -/
structure Member where
  name : String
  location : Option Location := none
  exclude : Option Attribute := none
  displayName : Option Attribute := none
  accessorPrefix : Option Attribute := none
  /-- References to groups, in the order they were written. -/
  groups : List Attribute := []
  deriving DecidableEq

/-- An enumeration type and what was written on it. -/
structure EnumType where
  name : String
  /-- The enclosing namespace, empty for the global one. -/
  scope : String := ""
  /-- The path that references to members start with. -/
  fullName : String
  accessibility : Accessibility
  /-- Whether the values are independent bits. -/
  isFlags : Bool := false
  exclude : Option Attribute := none
  accessorPrefix : Option Attribute := none
  naming : Option Attribute := none
  /-- Declarations of groups, in the order they were written. -/
  groups : List Attribute := []
  members : List Member := []
  deriving DecidableEq

namespace EnumType

/-- A type with nothing written on it.  The full name is the name behind the namespace. -/
def ofName (name scope : String) (accessibility : Accessibility) : EnumType where
  name := name
  scope := scope
  fullName := if scope = "" then name else scope ++ "." ++ name
  accessibility := accessibility

/-- The first member of a name. -/
def member? (e : EnumType) (name : String) : Option Member :=
  e.members.find? fun m => m.name == name

end EnumType

/-- A declaration that the host found, with the type it stands for if the host could tell. -/
structure Declaration where
  name : String
  location : Option Location := none
  symbol : Option EnumType := none
  deriving DecidableEq

namespace Declaration

/-- The declaration of a known type. -/
def resolved (symbol : EnumType) : Declaration where
  name := symbol.name
  symbol := some symbol

/-- A declaration that could not be resolved. -/
def unresolved (name : String) (location : Option Location) : Declaration where
  name := name
  location := location

end Declaration

/-- Everything that one pass sees. -/
structure Compilation where
  /-- The naming preference of the project, which types override. -/
  naming : Option Attribute := none
  enums : List Declaration := []
  deriving DecidableEq

end EnumAccessors

/-!
# The kinds of diagnostics

The catalog of everything the analysis can report (`Diagnostic.Kind.all`), in a fixed order.  The
ids are stable: hosts filter by them.
-/

namespace EnumAccessors

/-- How bad a diagnostic is. -/
inductive Severity where
  | error
  | warning
  deriving DecidableEq, Repr

/-- The name of a severity. -/
def Severity.name : Severity → String
  | error => "error"
  | warning => "warning"

namespace Diagnostic

/-- What a diagnostic is about. -/
inductive Kind where
  | sourceCasing
  | targetCasing
  | namingAbsent
  | namingArguments
  | prefixInvalid
  | prefixAbsent
  | prefixType
  | enumExclusionType
  | flagExclusionType
  | displayNameInvalid
  | displayNameAbsent
  | displayNameType
  | groupNameInvalid
  | groupNameType
  | groupPrefixInvalid
  | groupPrefixType
  | unknownGroup
  | membershipArguments
  | unresolvedDeclaration
  deriving DecidableEq, Repr

namespace Kind

/-- The catalog. -/
def all : List Kind :=
  [sourceCasing, targetCasing, namingAbsent, namingArguments, prefixInvalid, prefixAbsent,
   prefixType, enumExclusionType, flagExclusionType, displayNameInvalid, displayNameAbsent,
   displayNameType, groupNameInvalid, groupNameType, groupPrefixInvalid, groupPrefixType,
   unknownGroup, membershipArguments, unresolvedDeclaration]

/-- The stable id. -/
def id : Kind → String
  | sourceCasing => "NAM-SRC"
  | targetCasing => "NAM-TGT"
  | namingAbsent => "NAM-ABSENT"
  | namingArguments => "NAM-ARGS"
  | prefixInvalid => "PFX-INVALID"
  | prefixAbsent => "PFX-ABSENT"
  | prefixType => "PFX-TYPE"
  | enumExclusionType => "EXC-ENUM-TYPE"
  | flagExclusionType => "EXC-FLAG-TYPE"
  | displayNameInvalid => "NAME-INVALID"
  | displayNameAbsent => "NAME-ABSENT"
  | displayNameType => "NAME-TYPE"
  | groupNameInvalid => "GRP-NAME"
  | groupNameType => "GRP-NAME-TYPE"
  | groupPrefixInvalid => "GRP-PREFIX"
  | groupPrefixType => "GRP-PREFIX-TYPE"
  | unknownGroup => "GRP-UNKNOWN"
  | membershipArguments => "GRP-ADD-INVALID"
  | unresolvedDeclaration => "SYNTAX-INVALID"

/-- The kind of an id. -/
def ofId? (text : String) : Option Kind := all.find? fun k => k.id == text

/-- A kind is found again by its id, so ids are distinct. -/
@[simp] theorem ofId?_id (k : Kind) : ofId? k.id = some k := by cases k <;> rfl

/-- The severity of every diagnostic of the kind. -/
def severity : Kind → Severity
  | namingAbsent | enumExclusionType | flagExclusionType | unknownGroup => .warning
  | _ => .error

/-- A short title. -/
def title : Kind → String
  | sourceCasing => "Invalid source naming case"
  | targetCasing => "Invalid target naming case"
  | namingAbsent => "Naming case not specified"
  | namingArguments => "Invalid naming arguments"
  | prefixInvalid => "Invalid prefix"
  | prefixAbsent => "Prefix not specified"
  | prefixType => "Invalid prefix type"
  | enumExclusionType => "Invalid enum exclusion type"
  | flagExclusionType => "Invalid flag exclusion type"
  | displayNameInvalid => "Invalid flag name"
  | displayNameAbsent => "Flag name not specified"
  | displayNameType => "Invalid flag name type"
  | groupNameInvalid => "Invalid group name"
  | groupNameType => "Invalid group name type"
  | groupPrefixInvalid => "Invalid group prefix"
  | groupPrefixType => "Invalid group prefix type"
  | unknownGroup => "Unknown group name"
  | membershipArguments => "Invalid group addition"
  | unresolvedDeclaration => "Invalid enum syntax"

/-- The text of a message; a number in braces stands for the argument at that place. -/
def template : Kind → String
  | sourceCasing => "Source naming case \x7b0\x7d cannot produce valid identifiers"
  | targetCasing => "Target naming case \x7b0\x7d cannot produce valid identifiers"
  | namingAbsent => "Naming case is not specified, using the default (PASCAL -> PASCAL)"
  | namingArguments =>
    "Naming arguments are not valid, expected a source and a target naming case"
  | prefixInvalid => "Accessor prefix '\x7b0\x7d' is not a valid identifier"
  | prefixAbsent => "Accessor prefix is not specified in the attribute"
  | prefixType => "Accessor prefix has type \x7b0\x7d, expected string"
  | enumExclusionType => "Enum exclusion argument has type \x7b0\x7d, expected bool"
  | flagExclusionType => "Flag exclusion argument has type \x7b0\x7d, expected bool"
  | displayNameInvalid => "Flag display name '\x7b0\x7d' is not a valid identifier"
  | displayNameAbsent => "Flag display name is not specified in the attribute"
  | displayNameType => "Flag display name has type \x7b0\x7d, expected string"
  | groupNameInvalid => "Cannot generate group accessor, invalid group name '\x7b0\x7d'"
  | groupNameType =>
    "Cannot generate group accessor, group name has type \x7b0\x7d, expected string"
  | groupPrefixInvalid => "Group prefix '\x7b0\x7d' is not a valid identifier"
  | groupPrefixType => "Group prefix has type \x7b0\x7d, expected string"
  | unknownGroup => "Cannot add flag to group, unknown group name '\x7b0\x7d'"
  | membershipArguments => "Group membership takes exactly one group name"
  | unresolvedDeclaration =>
    "Cannot generate accessors for '\x7b0\x7d', the declaration could not be resolved"

end Kind

end Diagnostic

end EnumAccessors

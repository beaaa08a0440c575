import EnumAccessors.Diagnostic.Checked
import EnumAccessors.Identifier
import EnumAccessors.Naming.Casing

/-!
# Checks of single attributes

Each check reads one attribute, raises at most one diagnostic per argument, and gives a value to
go on with.
-/

namespace EnumAccessors

namespace Check

/-! ### Exclusion -/

/-- Whether an attribute excludes what it is written on: without an argument it does, and with an
argument of a wrong type too. -/
def exclusion (attr : Option Attribute) (wrongType : Diagnostic.Kind) : Checked Bool :=
  match attr with
  | none => .ok false
  | some a =>
    match a.arg? 0 with
    | none => .ok true
    | some (.bool b) => .ok b
    | some v => .defaulted true ⟨wrongType, a.location, [v.typeName]⟩

/-! ### Identifiers -/

/-- The diagnostics for an attribute that gives an identifier. -/
structure IdentifierKinds where
  absent : Diagnostic.Kind
  wrongType : Diagnostic.Kind
  invalid : Diagnostic.Kind

namespace IdentifierKinds

/-- For the prefix of the accessors of a type or a member. -/
def accessorPrefix : IdentifierKinds := ⟨.prefixAbsent, .prefixType, .prefixInvalid⟩

/-- For the name of a group. -/
def groupName : IdentifierKinds := ⟨.prefixAbsent, .groupNameType, .groupNameInvalid⟩

/-- For the prefix of the accessor of a group. -/
def groupPrefix : IdentifierKinds := ⟨.prefixAbsent, .groupPrefixType, .groupPrefixInvalid⟩

/-- For the display name of a member. -/
def displayName : IdentifierKinds := ⟨.displayNameAbsent, .displayNameType, .displayNameInvalid⟩

end IdentifierKinds

/-- An argument that has to be an identifier. -/
def identifierArgument (v : Argument) (location : Option Location) (kinds : IdentifierKinds) :
    Checked (Option String) :=
  match v with
  | .text s =>
    if Identifier.isValid s then .ok (some s)
    else .defaulted none ⟨kinds.invalid, location, [s]⟩
  | v => .defaulted none ⟨kinds.wrongType, location, [v.typeName]⟩

/-- The identifier that the first argument of an attribute gives; none means the default.  Where
the attribute has no place, that of its owner is reported. -/
def identifier (attr : Option Attribute) (owner : Option Location) (kinds : IdentifierKinds) :
    Checked (Option String) :=
  match attr with
  | none => .ok none
  | some a =>
    match a.arg? 0 with
    | none => .defaulted none ⟨kinds.absent, a.location.or owner, []⟩
    | some v => identifierArgument v (a.location.or owner) kinds

/-- The identifier that the argument at `index` gives, which may be missing. -/
def optionalIdentifier (a : Attribute) (index : Nat) (kinds : IdentifierKinds) :
    Checked (Option String) :=
  match a.arg? index with
  | none => .ok none
  | some v => identifierArgument v a.location kinds

/-! ### Naming -/

/-- A casing, which is kept even if names in it are no identifiers. -/
def casing (c : Casing) (kind : Diagnostic.Kind) (location : Option Location) : Checked Casing :=
  if c.isIdentifierSafe then .ok c else .defaulted c ⟨kind, location, [c.name]⟩

/-- The naming preference that an attribute gives by its first two arguments, or `fallback` if it
has fewer. -/
def naming (a : Attribute) (fallback : Naming) : Checked Naming :=
  match a.arg? 0, a.arg? 1 with
  | some source, some target => do
    let source ← casing (.ofArgument source) .sourceCasing a.location
    let target ← casing (.ofArgument target) .targetCasing a.location
    return ⟨source, target⟩
  | _, _ => .defaulted fallback ⟨.namingArguments, a.location, []⟩

/-- The naming preference of a project, if one is given.  One with fewer than two arguments counts
as none. -/
def projectNaming (attr : Option Attribute) : Checked (Option Naming) :=
  match attr with
  | none => .ok none
  | some a =>
    if a.args.length < 2 then .defaulted none ⟨.namingArguments, a.location, []⟩
    else (naming a .default).map some

/-- The naming preference of a type: its own, else that of the project, else the default. -/
def typeNaming (attr : Option Attribute) (project : Option Naming) : Checked Naming :=
  match attr, project with
  | some a, project => naming a (project.getD .default)
  | none, some n => .ok n
  | none, none => .defaulted .default ⟨.namingAbsent, none, []⟩

end Check

end EnumAccessors

import EnumAccessors.Analysis.Groups

/-!
# Analyzing types

The analysis of a type reads what was written on it and its members, in one pass, and gives a
descriptor (`EnumType.analyze`).  Nothing in it fails: each problem becomes a diagnostic and a
default.  Types that are not accessible or are excluded have no descriptor.
-/

namespace EnumAccessors

/-- What is said about a member apart from its groups. -/
def Member.analyze (m : Member) : Checked Flag := do
  let isExcluded ← Check.exclusion m.exclude .flagExclusionType
  let displayName ← Check.identifier m.displayName m.location .displayName
  let accessorPrefix ← Check.identifier m.accessorPrefix m.location .accessorPrefix
  return { name := m.name, displayName, isExcluded, accessorPrefix }

/-- The groups of all members, each member with its flag. -/
def Member.assignGroups (declared : List GroupDeclaration) (members : List (Member × Flag)) :
    Checked (List Flag) :=
  Checked.each
    (fun (m, f) => (GroupDeclaration.resolve m.groups declared).map fun groups =>
      { f with groups })
    members

namespace EnumType

/-- The descriptor of a type that is neither inaccessible nor excluded. -/
def describe (e : EnumType) (project : Option Naming) : Checked Descriptor := do
  let given ← Check.identifier e.accessorPrefix none .accessorPrefix
  let naming ← Check.typeNaming e.naming project
  let flags ← Checked.each Member.analyze e.members
  let declared ← GroupDeclaration.collect e.groups none
  let flags ← Member.assignGroups declared (e.members.zip flags)
  return {
    name := e.name
    scope := e.scope
    fullName := e.fullName
    accessibility := e.accessibility
    isFlags := e.isFlags
    accessorPrefix := given.getD Descriptor.defaultFlagPrefix
    naming
    flags
    groups := GroupDeclaration.build declared flags }

/-- The descriptor of a type, if it gets accessors.  The naming preference of the project applies
if the type has none of its own. -/
def analyze (e : EnumType) (project : Option Naming) : Checked (Option Descriptor) :=
  if e.accessibility.isEligible then do
    let isExcluded ← Check.exclusion e.exclude .enumExclusionType
    if isExcluded then return none else return some (← e.describe project)
  else .ok none

end EnumType

/-- The descriptor of the type that a declaration stands for. -/
def Declaration.analyze (d : Declaration) (project : Option Naming) :
    Checked (Option Descriptor) :=
  match d.symbol with
  | some e => e.analyze project
  | none => .defaulted none ⟨.unresolvedDeclaration, d.location, [d.name]⟩

end EnumAccessors

import EnumAccessors.Accessor.Basic
import EnumAccessors.Proofs.Description

/-!
# Accessors of analyzed types

The accessors of a type are found by analyzing it and lowering the descriptor.  Here the same list
is read directly off what is written on the type and its members (`EnumType.readAccessors`), and
`EnumType.accessors_analyze` proves the two equal: inherited prefixes, display names, repeated
declarations, exclusions and groups without members all come out as written.
-/

namespace EnumAccessors

namespace EnumType

variable (e : EnumType)

/-- The accessor of a member: its own prefix or the type's, and its display name or its name
converted. -/
def readFlag (n : Naming) (m : Member) : Accessor where
  name := (m.accessorPrefix.bind fun a => a.identifier? 0).getD e.chosenPrefix ++
    n.convert ((m.displayName.bind fun a => a.identifier? 0).getD m.name)
  subject := .flag
  label := m.name
  members := [m.name]

/-- The accessor of a group: the prefix of its first declaration, and its name converted. -/
def readGroup (n : Naming) (g : String) : Accessor where
  name := GroupDeclaration.firstPrefix e.groups g ++ n.convert g
  subject := .group
  label := g
  members := e.membersOf g

/-- The accessors read off what is written on a type: one for each member that is not excluded,
then one for each declared group with such members, in the order of first declaration. -/
def readAccessors (project : Option Naming) : List Accessor :=
  e.included.map (e.readFlag (e.chosenNaming project)) ++
    ((GroupDeclaration.declaredNames e.groups).filter fun g => e.membersOf g ≠ []).map
      (e.readGroup (e.chosenNaming project))

variable {e} {project : Option Naming}

theorem map_flagAccessor_describe :
    (((e.describe project).value.flags.filter fun f => !f.isExcluded).map
        (e.describe project).value.flagAccessor) =
      e.included.map (e.readFlag (e.chosenNaming project)) := by
  simp only [value_describe]
  rw [List.filter_map, List.map_map, included]
  have hkept : ((fun f : Flag => !f.isExcluded) ∘ Member.toFlag e.declared) =
      fun m => decide (Exclusion.IsLifted m.exclude) := by
    funext m
    simp
  rw [hkept]
  rfl

theorem map_groupAccessor_describe :
    (((e.describe project).value.groups.filter fun g => !g.members.isEmpty).map
        (e.describe project).value.groupAccessor) =
      ((GroupDeclaration.declaredNames e.groups).filter fun g => e.membersOf g ≠ []).map
        (e.readGroup (e.chosenNaming project)) := by
  rw [groups_describe, List.filter_map, List.map_map]
  have hmembers : ((fun g : Group => !g.members.isEmpty) ∘ fun g =>
      ⟨g, GroupDeclaration.firstPrefix e.groups g, e.membersOf g⟩) =
        fun g => decide (e.membersOf g ≠ []) := by
    funext g
    cases h : e.membersOf g <;> simp [h]
  rw [hmembers, value_describe]
  rfl

theorem accessors_describe :
    (e.describe project).value.accessors = e.readAccessors project := by
  rw [Descriptor.accessors, map_flagAccessor_describe, map_groupAccessor_describe, readAccessors]

/-- **The accessors of a covered type are those written on it.** -/
theorem accessors_analyze (h : e.IsCovered) :
    (e.analyze project).value.map Descriptor.accessors = some (e.readAccessors project) := by
  rw [analyze_of_isCovered h, Checked.value_map, Option.map_some, accessors_describe]

/-- Inherited, own and invalid prefixes; a display name; an excluded member; a group declared
twice, one declared in vain, and a reference with too many arguments. -/
theorem accessors_analyze_permission :
    let e : EnumType :=
      { name := "P", fullName := "N.P", accessibility := .internal
        exclude := some { args := [.bool false] }
        accessorPrefix := some { args := [.text "Can"] }
        naming := some { args := [.text "PASCAL", .text "SNAKE"] }
        groups := [{ args := [.text "Basic", .text "In"] }, { args := [.text "Rare"] },
          { args := [.text "Basic", .text "Other"] }]
        members :=
          [{ name := "Read", groups := [{ args := [.text "Basic"] }] },
           { name := "Write", displayName := some { args := [.text "WriteFile"] }
             accessorPrefix := some { args := [.text "May"] }
             groups := [{ args := [.text "Rare", .null] }, { args := [.text "Basic"] }] },
           { name := "Own", exclude := some {}, groups := [{ args := [.text "Rare"] }] },
           { name := "Run", accessorPrefix := some { args := [.text "1st"] } }] }
    e.IsCovered ∧ (e.analyze none).value.map Descriptor.accessors =
      some [⟨"Canread", .flag, "Read", ["Read"]⟩, ⟨"Maywrite_file", .flag, "Write", ["Write"]⟩,
        ⟨"Canrun", .flag, "Run", ["Run"]⟩, ⟨"Inbasic", .group, "Basic", ["Read", "Write"]⟩] := by
  intro e
  have h : e.IsCovered := by decide
  exact ⟨h, (accessors_analyze h).trans (by decide)⟩

end EnumType

end EnumAccessors

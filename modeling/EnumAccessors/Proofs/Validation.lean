import EnumAccessors.Proofs.Description

/-!
# Metadata without problems

The analysis of a covered type raises no diagnostic exactly if what is written on it and its
members is proper (`EnumType.IsProper`, `EnumType.analyze_silent_iff_isProper`).

The predicate speaks about attributes alone.  Some slips are silent and some are not: surplus
arguments matter only on references, and the prefix of a group that is declared already is never
looked at.
-/

namespace EnumAccessors

/-- What is written on a member apart from its groups is proper. -/
structure Member.IsProper (m : Member) : Prop where
  exclude : ∀ a ∈ m.exclude, ∀ v ∈ a.arg? 0, v.bool?.isSome
  displayName : ∀ a ∈ m.displayName, (a.identifier? 0).isSome
  accessorPrefix : ∀ a ∈ m.accessorPrefix, (a.identifier? 0).isSome

namespace EnumType

/-- What is written on a type and its members is proper. -/
structure IsProper (e : EnumType) (project : Option Naming) : Prop where
  naming : (e.naming = none ∧ project.isSome) ∨
    ∃ a ∈ e.naming, ∃ n ∈ a.naming?, n.isSupported = true
  accessorPrefix : ∀ a ∈ e.accessorPrefix, (a.identifier? 0).isSome
  members : ∀ m ∈ e.members, m.IsProper
  groups : ∀ before a after, e.groups = before ++ a :: after → GroupDeclaration.IsProper before a
  references : ∀ m ∈ e.members, ∀ r ∈ m.groups,
    ∃ name, r.args = [.text name] ∧ ∃ a ∈ e.groups, a.arg? 0 = some (.text name)

end EnumType

theorem Member.diagnostics_analyze_eq_nil {m : Member} :
    m.analyze.diagnostics = [] ↔ m.IsProper := by
  simp only [analyze, Checked.diagnostics_bind, Checked.diagnostics_pure, List.append_nil,
    List.append_eq_nil_iff, Check.diagnostics_exclusion_eq_nil,
    Check.diagnostics_identifier_eq_nil]
  constructor
  · rintro ⟨hexclude, hname, hpre⟩
    exact ⟨hexclude, hname, hpre⟩
  · rintro ⟨hexclude, hname, hpre⟩
    exact ⟨hexclude, hname, hpre⟩

/-- Beside proper declarations a group is declared as soon as a declaration starts with it. -/
theorem GroupDeclaration.mem_declaredNames_of_isProper {attrs : List Attribute}
    (h : ∀ before a after, attrs = before ++ a :: after → IsProper before a) {name : String} :
    name ∈ declaredNames attrs ↔ ∃ a ∈ attrs, a.arg? 0 = some (.text name) := by
  rw [mem_declaredNames]
  refine exists_congr fun a => and_congr_right fun ha => ?_
  -- each declaration starts with an identifier, so what starts one is what it gives
  obtain ⟨before, after, hsplit⟩ := List.append_of_mem ha
  obtain ⟨given, hgiven⟩ := Option.isSome_iff_exists.1 (h before a after hsplit).1
  obtain ⟨harg, hvalid⟩ := Attribute.identifier?_eq_some_iff.1 hgiven
  rw [hgiven, harg]
  simp

namespace EnumType

variable {e : EnumType} {project : Option Naming}

theorem diagnostics_describe_eq_nil :
    (e.describe project).diagnostics = [] ↔ e.IsProper project := by
  simp only [diagnostics_describe, List.append_eq_nil_iff, List.flatMap_eq_nil_iff,
    Check.diagnostics_identifier_eq_nil, Check.diagnostics_typeNaming_eq_nil,
    Member.diagnostics_analyze_eq_nil, GroupDeclaration.diagnostics_collect_eq_nil,
    GroupDeclaration.diagnostics_resolve_eq_nil, GroupDeclaration.declares_iff,
    map_name_declared]
  -- the groups are looked up among the valid declarations, which proper ones all are
  constructor
  · rintro ⟨⟨⟨⟨hpre, hnaming⟩, hmembers⟩, hgroups⟩, hreferences⟩
    simp only [GroupDeclaration.mem_declaredNames_of_isProper hgroups] at hreferences
    exact ⟨hnaming, hpre, hmembers, hgroups, hreferences⟩
  · rintro ⟨hnaming, hpre, hmembers, hgroups, hreferences⟩
    simp only [GroupDeclaration.mem_declaredNames_of_isProper hgroups]
    exact ⟨⟨⟨⟨hpre, hnaming⟩, hmembers⟩, hgroups⟩, hreferences⟩

/-- **The analysis of a covered type is silent exactly if what is written on it is proper.** -/
theorem analyze_silent_iff_isProper (h : e.IsCovered) :
    (e.analyze project).diagnostics = [] ↔ e.IsProper project := by
  rw [analyze_of_isCovered h, Checked.diagnostics_map, diagnostics_describe_eq_nil]

/-- A repeated declaration and surplus arguments are no problem. -/
theorem analyze_silent_iff_isProper_repeated :
    let e : EnumType :=
      { name := "E", fullName := "E", accessibility := .public
        accessorPrefix := some { args := [.text "Is", .null] }
        groups := [{ args := [.text "G"] }, { args := [.text "G", .text "a b"] }]
        members := [{ name := "A", exclude := some {}, groups := [{ args := [.text "G"] }] }] }
    e.IsCovered ∧ ((e.analyze (some .default)).diagnostics = [] ↔ e.IsProper (some .default)) ∧
      e.IsProper (some .default) := by
  intro e
  have h : e.IsCovered := by decide
  have hiff : (e.analyze (some .default)).diagnostics = [] ↔ e.IsProper (some .default) :=
    analyze_silent_iff_isProper h
  exact ⟨h, hiff, hiff.1 (by decide)⟩

end EnumType

end EnumAccessors

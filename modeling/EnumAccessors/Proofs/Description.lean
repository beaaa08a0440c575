import EnumAccessors.Analysis.Describe
import EnumAccessors.Proofs.Groups

/-!
# Descriptors of analyzed types

What the analysis of a type gives, told from what is written on the type and its members, and what
can be relied on in any descriptor.

* `EnumType.value_describe` and `EnumType.diagnostics_describe`: the descriptor field by field,
  and the diagnostics in their order.
* `EnumType.value_analyze_eq_some_iff`: exactly the covered types have a descriptor
  (`EnumType.IsCovered`).
* `EnumType.groups_describe`: the groups of the descriptor with their members.
* `Descriptor.WellFormed`: what generated code relies on: identifiers where names are put
  together, groups of distinct names, and flags and groups that agree on who belongs where.
* `EnumType.wellFormed_of_analyze`: every descriptor is well formed and has the flags of the
  members, whatever was written on them.
-/

namespace EnumAccessors

/-! ### Flags -/

namespace Member

/-- The flag of a member beside the declared groups. -/
def toFlag (declared : List GroupDeclaration) (m : Member) : Flag where
  name := m.name
  displayName := m.displayName.bind fun a => a.identifier? 0
  isExcluded := !decide (Exclusion.IsLifted m.exclude)
  accessorPrefix := m.accessorPrefix.bind fun a => a.identifier? 0
  groups := (GroupDeclaration.resolve m.groups declared).value

@[simp] theorem name_toFlag (declared : List GroupDeclaration) (m : Member) :
    (m.toFlag declared).name = m.name := rfl

@[simp] theorem isExcluded_toFlag (declared : List GroupDeclaration) (m : Member) :
    (m.toFlag declared).isExcluded = !decide (Exclusion.IsLifted m.exclude) := rfl

/-- The flag is what is found out about the member alone, with its groups filled in. -/
theorem value_analyze_with_groups (m : Member) (declared : List GroupDeclaration) :
    { m.analyze.value with groups := (GroupDeclaration.resolve m.groups declared).value } =
      m.toFlag declared := by
  simp [Member.analyze, toFlag]

/-- The groups are assigned to each flag for itself, beside the member that it comes from. -/
theorem assignGroups_zip (declared : List GroupDeclaration) (members : List Member) :
    assignGroups declared (members.zip (members.map fun m => m.analyze.value)) =
      ⟨members.map (toFlag declared),
        members.flatMap fun m => (GroupDeclaration.resolve m.groups declared).diagnostics⟩ := by
  have hzip : members.zip (members.map fun m => m.analyze.value) =
      members.map fun m => (m, m.analyze.value) := by
    simpa using List.zip_map' (f := id) (g := fun m : Member => m.analyze.value) (l := members)
  ext1
  · simp [assignGroups, hzip, value_analyze_with_groups]
  · simp [assignGroups, hzip, List.flatMap_map]

end Member

/-! ### Types -/

theorem Accessibility.isEligible_iff {a : Accessibility} :
    a.isEligible = true ↔ a = .public ∨ a = .internal := by
  cases a <;> simp [isEligible]

namespace EnumType

/-- A type gets accessors: it is public or internal, and not excluded. -/
structure IsCovered (e : EnumType) : Prop where
  accessibility : e.accessibility = .public ∨ e.accessibility = .internal
  exclude : Exclusion.IsLifted e.exclude

instance (e : EnumType) : Decidable e.IsCovered :=
  decidable_of_iff
    ((e.accessibility = .public ∨ e.accessibility = .internal) ∧ Exclusion.IsLifted e.exclude)
    ⟨fun h => ⟨h.1, h.2⟩, fun h => ⟨h.1, h.2⟩⟩

variable (e : EnumType) (project : Option Naming)

/-- The members that are not excluded. -/
def included : List Member := e.members.filter fun m => Exclusion.IsLifted m.exclude

/-- The included members with a reference whose only argument is the name of the group. -/
def membersOf (group : String) : List String :=
  (e.included.filter fun m => ∃ a ∈ m.groups, a.args = [.text group]).map Member.name

/-- The groups that a type declares. -/
def declared : List GroupDeclaration :=
  (GroupDeclaration.declaredNames e.groups).map (GroupDeclaration.first e.groups)

/-- The naming preference that a type gives, else that of the project, else the default. -/
def chosenNaming : Naming := ((e.naming.bind Attribute.naming?).or project).getD ⟨.pascal, .pascal⟩

/-- The prefix that a type gives for its flags, or the default. -/
def chosenPrefix : String := (e.accessorPrefix.bind fun a => a.identifier? 0).getD "Has"

theorem value_describe :
    (e.describe project).value =
      { name := e.name
        scope := e.scope
        fullName := e.fullName
        accessibility := e.accessibility
        isFlags := e.isFlags
        accessorPrefix := e.chosenPrefix
        naming := e.chosenNaming project
        flags := e.members.map (Member.toFlag e.declared)
        groups :=
          GroupDeclaration.build e.declared (e.members.map (Member.toFlag e.declared)) } := by
  simp [describe, GroupDeclaration.value_collect, Member.assignGroups_zip, declared, chosenNaming,
    chosenPrefix, Naming.default, Descriptor.defaultFlagPrefix]

theorem map_name_declared :
    e.declared.map GroupDeclaration.name = GroupDeclaration.declaredNames e.groups := by
  simp [declared, Function.comp_def]

variable {e} in
theorem mem_groups_toFlag {m : Member} {name : String} :
    name ∈ (m.toFlag e.declared).groups ↔
      name ∈ GroupDeclaration.declaredNames e.groups ∧ ∃ a ∈ m.groups, a.args = [.text name] := by
  rw [← map_name_declared, ← GroupDeclaration.declares_iff]
  exact GroupDeclaration.mem_resolve

variable {e} in
/-- The flags that make up a declared group come from the included members that refer to it. -/
theorem map_name_filter_flags {g : String} (hg : g ∈ GroupDeclaration.declaredNames e.groups) :
    ((e.members.map (Member.toFlag e.declared)).filter fun f =>
      !f.isExcluded && f.groups.contains g).map Flag.name = e.membersOf g := by
  rw [List.filter_map, List.map_map, membersOf, included, List.filter_filter]
  refine congrArg (List.map Member.name) (List.filter_congr fun m _ => ?_)
  simp [mem_groups_toFlag, hg, Bool.and_comm]

/-- The groups are those declared, each with the included members that refer to it. -/
theorem groups_describe :
    (e.describe project).value.groups =
      (GroupDeclaration.declaredNames e.groups).map fun g =>
        ⟨g, GroupDeclaration.firstPrefix e.groups g, e.membersOf g⟩ := by
  rw [value_describe]
  refine (GroupDeclaration.build_map_first e.groups _ _).trans ?_
  exact List.map_congr_left fun g hg => by rw [map_name_filter_flags hg]

/-- The same, told from the declarations. -/
theorem groups_eq_map_declared :
    (e.describe project).value.groups =
      e.declared.map fun d => ⟨d.name, d.accessorPrefix, e.membersOf d.name⟩ := by
  rw [groups_describe, declared, List.map_map]
  rfl

theorem diagnostics_describe :
    (e.describe project).diagnostics =
      (Check.identifier e.accessorPrefix none .accessorPrefix).diagnostics ++
      (Check.typeNaming e.naming project).diagnostics ++
      (e.members.flatMap fun m => m.analyze.diagnostics) ++
      (GroupDeclaration.collect e.groups none).diagnostics ++
      e.members.flatMap fun m => (GroupDeclaration.resolve m.groups e.declared).diagnostics := by
  simp [describe, GroupDeclaration.value_collect, Member.assignGroups_zip, declared]

variable {e project}

/-- Nothing but the accessibility and the exclusion of a type decides whether it is covered. -/
theorem isCovered_congr {e' : EnumType} (haccessibility : e'.accessibility = e.accessibility)
    (hexclude : e'.exclude = e.exclude) : e'.IsCovered ↔ e.IsCovered := by
  constructor
  · exact fun h => ⟨haccessibility ▸ h.accessibility, hexclude ▸ h.exclude⟩
  · exact fun h => ⟨haccessibility ▸ h.accessibility, hexclude ▸ h.exclude⟩

theorem analyze_of_isCovered (h : e.IsCovered) :
    e.analyze project = (e.describe project).map some := by
  obtain ⟨hacc, hexcl⟩ := h
  -- neither the accessibility nor the exclusion raises anything here
  rw [analyze, if_pos (Accessibility.isEligible_iff.2 hacc), Check.exclusion_of_isLifted hexcl]
  ext1 <;> simp

theorem value_analyze_of_not_isCovered (h : ¬ e.IsCovered) :
    (e.analyze project).value = none := by
  by_cases heligible : e.accessibility.isEligible = true
  · have hexcl : ¬ Exclusion.IsLifted e.exclude := fun hexcl =>
      h ⟨Accessibility.isEligible_iff.1 heligible, hexcl⟩
    simp [analyze, heligible, hexcl]
  · simp [analyze, heligible]

/-- Of a type that gets no accessors nothing is looked at but its accessibility and exclusion. -/
theorem analyze_congr_of_not_isCovered {e' : EnumType} {project' : Option Naming}
    (haccessibility : e'.accessibility = e.accessibility) (hexclude : e'.exclude = e.exclude)
    (h : ¬ e.IsCovered) : e'.analyze project' = e.analyze project := by
  by_cases heligible : e.accessibility.isEligible = true
  · have hexcl : ¬ Exclusion.IsLifted e.exclude := fun hexcl =>
      h ⟨Accessibility.isEligible_iff.1 heligible, hexcl⟩
    ext1 <;> simp [analyze, haccessibility, hexclude, heligible, hexcl]
  · simp [analyze, haccessibility, heligible]

/-- What is read off a descriptor is the same if it is so for types that get accessors. -/
theorem map_value_analyze_congr {α : Type} {f : Descriptor → α} {e' : EnumType}
    {project' : Option Naming} (haccessibility : e'.accessibility = e.accessibility)
    (hexclude : e'.exclude = e.exclude)
    (hf : f (e'.describe project').value = f (e.describe project).value) :
    (e'.analyze project').value.map f = (e.analyze project).value.map f := by
  by_cases h : e.IsCovered
  · rw [analyze_of_isCovered h,
      analyze_of_isCovered ((isCovered_congr haccessibility hexclude).2 h), Checked.value_map,
      Checked.value_map, Option.map_some, Option.map_some, hf]
  · rw [analyze_congr_of_not_isCovered haccessibility hexclude h]

/-- The types that have a descriptor are those that get accessors. -/
theorem value_analyze_eq_some_iff {d : Descriptor} :
    (e.analyze project).value = some d ↔ e.IsCovered ∧ d = (e.describe project).value := by
  by_cases h : e.IsCovered
  · simp [analyze_of_isCovered h, h, eq_comm]
  · simp [value_analyze_of_not_isCovered h, h]

end EnumType

/-! ### Well-formed descriptors -/

/-- A flag is well formed beside groups of the given names. -/
structure Flag.WellFormed (f : Flag) (groupNames : List String) : Prop where
  displayName : ∀ s ∈ f.displayName, Identifier.isValid s = true
  accessorPrefix : ∀ s ∈ f.accessorPrefix, Identifier.isValid s = true
  groups_nodup : f.groups.Nodup
  groups_subset : ∀ name ∈ f.groups, name ∈ groupNames

/-- A group is well formed beside the flags: it has those that are in it and not excluded. -/
structure Group.WellFormed (g : Group) (flags : List Flag) : Prop where
  name : Identifier.isValid g.name = true
  accessorPrefix : Identifier.isValid g.accessorPrefix = true
  members : g.members =
    (flags.filter fun f => f.isExcluded = false ∧ g.name ∈ f.groups).map Flag.name

/-- What generated code relies on in a descriptor: names are put together from identifiers, no two
groups share one, and flags and groups say the same about who belongs where. -/
structure Descriptor.WellFormed (d : Descriptor) : Prop where
  accessorPrefix : Identifier.isValid d.accessorPrefix = true
  groups_nodup : (d.groups.map Group.name).Nodup
  flags : ∀ f ∈ d.flags, f.WellFormed (d.groups.map Group.name)
  groups : ∀ g ∈ d.groups, g.WellFormed d.flags

theorem Member.wellFormed_toFlag (m : Member) (declared : List GroupDeclaration) :
    (m.toFlag declared).WellFormed (declared.map GroupDeclaration.name) where
  displayName := fun _ hs => Attribute.isValid_of_mem_bind hs
  accessorPrefix := fun _ hs => Attribute.isValid_of_mem_bind hs
  groups_nodup := GroupDeclaration.nodup_resolve
  groups_subset := fun _ hname =>
    GroupDeclaration.declares_iff.1 (GroupDeclaration.mem_resolve.1 hname).1

theorem GroupDeclaration.wellFormed_of_mem_build {attrs : List Attribute} {flags : List Flag}
    {g : Group} (h : g ∈ build ((declaredNames attrs).map (first attrs)) flags) :
    g.WellFormed flags := by
  rw [build_map_first, List.mem_map] at h
  obtain ⟨name, hname, rfl⟩ := h
  refine ⟨isValid_of_mem_declaredNames hname, isValid_firstPrefix attrs name, ?_⟩
  refine congrArg (List.map Flag.name) (List.filter_congr fun f _ => ?_)
  rw [List.contains_eq_mem, Bool.decide_and, Bool.decide_eq_false]

namespace EnumType

variable (e : EnumType) (project : Option Naming)

theorem isValid_chosenPrefix : Identifier.isValid e.chosenPrefix = true :=
  Attribute.isValid_bind_getD _ 0 (by decide)

theorem wellFormed_describe : (e.describe project).value.WellFormed := by
  rw [value_describe]
  refine ⟨e.isValid_chosenPrefix, ?_, ?_, ?_⟩
  · rw [GroupDeclaration.map_name_build, map_name_declared]
    exact nodup_eraseDups _
  · intro f hf
    obtain ⟨m, -, rfl⟩ := List.mem_map.1 hf
    rw [GroupDeclaration.map_name_build]
    exact m.wellFormed_toFlag e.declared
  · intro g hg
    exact GroupDeclaration.wellFormed_of_mem_build hg

theorem map_name_flags_describe :
    (e.describe project).value.flags.map Flag.name = e.members.map Member.name := by
  simp [value_describe, Function.comp_def]

/-- **Every descriptor is well formed**, and its flags are the members one by one. -/
theorem wellFormed_of_analyze {e : EnumType} {project : Option Naming} {d : Descriptor}
    (h : (e.analyze project).value = some d) :
    d.WellFormed ∧ d.flags.map Flag.name = e.members.map Member.name := by
  obtain ⟨-, rfl⟩ := value_analyze_eq_some_iff.1 h
  exact ⟨wellFormed_describe e project, map_name_flags_describe e project⟩

/-- A type with invalid names, repeated declarations and references, and an excluded member. -/
theorem wellFormed_of_analyze_garbled :
    let e : EnumType :=
      { name := "E", fullName := "E", accessibility := .internal
        exclude := some { args := [.bool false, .null] }
        accessorPrefix := some { args := [.text "1st"] }
        groups := [{ args := [.text "G", .text "a b"] }, {}, { args := [.text "-"] },
          { args := [.text "G", .text "In"] }, { args := [.text "H", .int 3] }]
        members :=
          [{ name := "A", displayName := some { args := [.text "x-y"] }
             groups := [{ args := [.text "H"] }, { args := [.text "G"] }, { args := [.text "H"] },
               { args := [.text "-"] }] },
           { name := "B", exclude := some { args := [.int 0] }
             groups := [{ args := [.text "G"] }, { args := [.text "G", .text "H"] }] }] }
    ∃ d, (e.analyze none).value = some d ∧ d.WellFormed ∧
      d.flags.map Flag.name = e.members.map Member.name := by
  intro e
  have h : (e.analyze none).value = some (e.describe none).value := by decide
  exact ⟨_, h, wellFormed_of_analyze h⟩

end EnumType

end EnumAccessors

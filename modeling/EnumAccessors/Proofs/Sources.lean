import EnumAccessors.Proofs.Lowering
import EnumAccessors.Proofs.Pass

/-!
# Which sources are generated

What a source file says about a type, and whether there is one.

* `EnumType.generate_withoutExcluded`: the source of a type is that of the type from which the
  excluded members have been deleted, whatever was written on them.
* `EnumType.isSome_value_generate_iff`: a type has a source if it is covered and has a member that
  is not excluded.  Groups do not help, for a group gets an accessor only by such a member.
* `Compilation.units_run`: the units of a pass are those of the declarations of such types, one
  for each and in their order.
-/

namespace EnumAccessors

/-- A partial function is mapped over the elements that it is defined at. -/
theorem map_filterMap_of_isSome {α β γ : Type} {f : α → Option β} {p : α → Bool} {g : β → γ}
    {k : α → Option γ} (hp : ∀ a, (f a).isSome = p a)
    (hk : ∀ a, (f a).isSome = true → (f a).map g = k a) (xs : List α) :
    (xs.filterMap f).map g = (xs.filter p).filterMap k := by
  rw [List.map_filterMap, List.filterMap_filter]
  refine congrArg (List.filterMap · xs) (funext fun a => ?_)
  rw [← hp]
  split
  · next h => exact hk a h
  · next h => rw [Option.not_isSome_iff_eq_none.1 h, Option.map_none]

/-! ### Descriptors -/

namespace Descriptor

variable {d d' : Descriptor} {o : Options} {u : SourceUnit}

/-- All that is generated for a type comes from its names, its accessibility, its kind and its
accessors. -/
theorem generate_congr (hname : d.name = d'.name) (hscope : d.scope = d'.scope)
    (hfullName : d.fullName = d'.fullName) (haccessibility : d.accessibility = d'.accessibility)
    (hisFlags : d.isFlags = d'.isFlags) (haccessors : d.accessors = d'.accessors) :
    d.generate o = d'.generate o := by
  simp only [generate, lines, headerLines, bodyLines, target, access, extensionName, hname, hscope,
    hfullName, haccessibility, hisFlags, haccessors]

theorem isSome_generate_iff (ho : o.methods = true ∨ o.properties = true) :
    (d.generate o).isSome = true ↔ d.accessors ≠ [] := by
  have henabled : (!o.methods && !o.properties) = false := by
    rcases ho with h | h <;> simp [h]
  rw [generate, henabled, Bool.or_false]
  cases d.accessors <;> simp

theorem typeName_of_generate (h : d.generate o = some u) : u.typeName = d.name ++ "Extensions" := by
  unfold generate at h
  split at h
  · cases h
  · obtain rfl := Option.some.inj h
    rfl

end Descriptor

/-- A configuration that makes sense has something enabled. -/
theorem Options.enabled_of_fault?_eq_none {o : Options} (h : o.fault? = none) :
    o.methods = true ∨ o.properties = true := by
  unfold fault? at h
  split at h
  · cases h
  · next hnone => cases hm : o.methods <;> cases hp : o.properties <;> simp_all

/-! ### Excluded members -/

namespace EnumType

/-- The type from which the excluded members have been deleted. -/
def withoutExcluded (e : EnumType) : EnumType := { e with members := e.included }

variable {e : EnumType} {project : Option Naming} {o : Options} {u : SourceUnit}

theorem included_withoutExcluded (e : EnumType) : e.withoutExcluded.included = e.included := by
  rw [included, withoutExcluded, included, List.filter_filter]
  simp

theorem isCovered_withoutExcluded : e.withoutExcluded.IsCovered ↔ e.IsCovered :=
  isCovered_congr rfl rfl

theorem membersOf_withoutExcluded (e : EnumType) : e.withoutExcluded.membersOf = e.membersOf := by
  funext g
  rw [membersOf, included_withoutExcluded, membersOf]

/-- Excluded members have no part in the accessors. -/
theorem readAccessors_withoutExcluded (e : EnumType) (project : Option Naming) :
    e.withoutExcluded.readAccessors project = e.readAccessors project := by
  have hgroup : e.withoutExcluded.readGroup = e.readGroup := by
    funext n g
    rw [readGroup, membersOf_withoutExcluded, readGroup]
    rfl
  rw [readAccessors, included_withoutExcluded, membersOf_withoutExcluded, hgroup, readAccessors]
  rfl

theorem value_generate_of_isCovered (h : e.IsCovered) :
    (e.generate project o).value = (e.describe project).value.generate o := by
  rw [generate, Checked.value_map, analyze_of_isCovered h, Checked.value_map, Option.bind_some]

theorem value_generate_of_not_isCovered (h : ¬ e.IsCovered) :
    (e.generate project o).value = none := by
  rw [generate, Checked.value_map, value_analyze_of_not_isCovered h, Option.bind_none]

/-- **Excluded members influence nothing that is generated.**  Deleting them leaves the source of
a type as it is, or leaves it without one. -/
theorem generate_withoutExcluded (e : EnumType) (project : Option Naming) (o : Options) :
    (e.withoutExcluded.generate project o).value = (e.generate project o).value := by
  by_cases h : e.IsCovered
  · rw [value_generate_of_isCovered h, value_generate_of_isCovered (isCovered_withoutExcluded.2 h)]
    have haccessors : (e.withoutExcluded.describe project).value.accessors =
        (e.describe project).value.accessors := by
      rw [accessors_describe, accessors_describe, readAccessors_withoutExcluded]
    -- apart from the accessors only what is written on the type itself matters
    exact Descriptor.generate_congr rfl rfl rfl rfl rfl haccessors
  · rw [value_generate_of_not_isCovered h,
      value_generate_of_not_isCovered (mt isCovered_withoutExcluded.1 h)]

/-! ### Types with sources -/

/-- What a type needs for a source: it is covered and has a member that is not excluded. -/
structure HasSource (e : EnumType) : Prop where
  isCovered : e.IsCovered
  member : ∃ m ∈ e.members, Exclusion.IsLifted m.exclude

instance (e : EnumType) : Decidable e.HasSource :=
  decidable_of_iff (e.IsCovered ∧ ∃ m ∈ e.members, Exclusion.IsLifted m.exclude)
    ⟨fun h => ⟨h.1, h.2⟩, fun h => ⟨h.1, h.2⟩⟩

theorem included_ne_nil_iff :
    e.included ≠ [] ↔ ∃ m ∈ e.members, Exclusion.IsLifted m.exclude := by
  simp [included, List.filter_eq_nil_iff]

/-- There is no accessor of a group without one of a flag. -/
theorem readAccessors_eq_nil_iff : e.readAccessors project = [] ↔ e.included = [] := by
  rw [readAccessors, List.append_eq_nil_iff, List.map_eq_nil_iff, List.map_eq_nil_iff]
  refine ⟨And.left, fun h => ⟨h, List.filter_eq_nil_iff.2 fun g _ => ?_⟩⟩
  simp [membersOf, h]

/-- Whether a type has a source does not depend on the rest of what is written on it. -/
theorem isSome_value_generate_iff (ho : o.methods = true ∨ o.properties = true) :
    (e.generate project o).value.isSome = true ↔ e.HasSource := by
  by_cases h : e.IsCovered
  · rw [value_generate_of_isCovered h, Descriptor.isSome_generate_iff ho, accessors_describe, ne_eq,
      readAccessors_eq_nil_iff, ← ne_eq, included_ne_nil_iff]
    exact ⟨fun hmember => ⟨h, hmember⟩, HasSource.member⟩
  · rw [value_generate_of_not_isCovered h]
    exact ⟨fun hsome => absurd hsome Bool.false_ne_true, fun hsource => absurd hsource.isCovered h⟩

theorem typeName_of_value_generate (h : (e.generate project o).value = some u) :
    u.typeName = e.name ++ "Extensions" := by
  by_cases hcovered : e.IsCovered
  · rw [value_generate_of_isCovered hcovered] at h
    exact Descriptor.typeName_of_generate h
  · rw [value_generate_of_not_isCovered hcovered] at h
    cases h

end EnumType

/-! ### Sources of a pass -/

namespace Declaration

/-- A declaration gets a source if it stands for a type that does. -/
def HasSource (d : Declaration) : Prop := ∃ e ∈ d.symbol, e.HasSource

instance (d : Declaration) : Decidable d.HasSource :=
  inferInstanceAs (Decidable (∃ e ∈ d.symbol, e.HasSource))

/-- The name of the class that the source of a declaration declares. -/
def className? (d : Declaration) : Option String := d.symbol.map fun e => e.name ++ "Extensions"

variable {d : Declaration} {project : Option Naming} {o : Options}

theorem unit?_of_symbol {e : EnumType} (h : d.symbol = some e) :
    d.unit? o project = (e.generate project o).value := by
  rw [unit?, analyze, h]
  rfl

theorem unit?_of_symbol_eq_none (h : d.symbol = none) : d.unit? o project = none := by
  rw [unit?, analyze, h]
  rfl

theorem isSome_unit?_iff (ho : o.methods = true ∨ o.properties = true) :
    (d.unit? o project).isSome = true ↔ d.HasSource := by
  cases h : d.symbol with
  | none => simp [unit?_of_symbol_eq_none h, HasSource, h]
  | some e =>
    rw [unit?_of_symbol h, EnumType.isSome_value_generate_iff ho]
    simp [HasSource, h]

theorem map_typeName_unit? (hsource : (d.unit? o project).isSome = true) :
    (d.unit? o project).map SourceUnit.typeName = d.className? := by
  obtain ⟨u, hu⟩ := Option.isSome_iff_exists.1 hsource
  cases h : d.symbol with
  | none =>
    rw [unit?_of_symbol_eq_none h] at hu
    cases hu
  | some e =>
    rw [hu, className?, h]
    rw [unit?_of_symbol h] at hu
    rw [Option.map_some, Option.map_some, EnumType.typeName_of_value_generate hu]

end Declaration

/-- **The units of a pass are exactly the right ones**: in the order of the declarations, one for
each that has a source, the one of the type it stands for, and none for any other. -/
theorem Compilation.units_run {c : Compilation} {o : Options} (ho : o.fault? = none) :
    ∃ out, c.run o (fun _ => false) = .ok out ∧
      out.units.map some = (c.enums.filter fun d => d.HasSource).map
        (Declaration.unit? o (Check.projectNaming c.naming).value) ∧
      out.units.map SourceUnit.typeName =
        (c.enums.filter fun d => d.HasSource).filterMap Declaration.className? := by
  have hsome : ∀ d : Declaration,
      (d.unit? o (Check.projectNaming c.naming).value).isSome = decide d.HasSource := fun d => by
    rw [Bool.eq_iff_iff, Declaration.isSome_unit?_iff (Options.enabled_of_fault?_eq_none ho),
      decide_eq_true_iff]
  refine ⟨c.output o, run_eq_ok ho fun _ _ => rfl, ?_, ?_⟩
  · rw [← List.filterMap_eq_map (f := Declaration.unit? o (Check.projectNaming c.naming).value)]
    refine map_filterMap_of_isSome hsome (fun d h => ?_) c.enums
    obtain ⟨u, hu⟩ := Option.isSome_iff_exists.1 h
    rw [Function.comp_apply, hu, Option.map_some]
  · exact map_filterMap_of_isSome hsome (fun _ => Declaration.map_typeName_unit?) c.enums

/-- Declarations without a type, of a private type, of an excluded one, and of one that has a group
but only an excluded member in it; between them two types with a source. -/
theorem Compilation.units_run_mixed :
    let member : Member := { name := "A", groups := [{ args := [.text "G"] }] }
    let c : Compilation :=
      { naming := some { args := [.int 4] }
        enums :=
          [.unresolved "U" none,
           .resolved { name := "P", fullName := "P", accessibility := .private
                       members := [member] },
           .resolved { name := "S", fullName := "S", accessibility := .internal
                       exclude := some { args := [.bool false] }
                       accessorPrefix := some { args := [.text "-"] }, members := [member] },
           .resolved { name := "X", fullName := "X", accessibility := .public
                       exclude := some { args := [.text "false"] }, members := [member] },
           .resolved { name := "N", fullName := "N", accessibility := .public
                       groups := [{ args := [.text "G"] }]
                       members := [{ member with exclude := some {} }] },
           .resolved { name := "T", fullName := "T", accessibility := .public
                       members := [{ member with exclude := some {} }, member] }] }
    Options.fault? {} = none ∧ ∃ out, c.run {} (fun _ => false) = .ok out ∧
      out.units.map SourceUnit.typeName = ["SExtensions", "TExtensions"] := by
  intro member c
  have ho : Options.fault? {} = none := by decide
  obtain ⟨out, hrun, -, hnames⟩ := units_run (c := c) ho
  exact ⟨ho, out, hrun, hnames.trans (by decide)⟩

end EnumAccessors

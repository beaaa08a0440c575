import EnumAccessors.Proofs.References

/-!
# Exclusions of members

Whether a member is excluded decides which accessors there are.  It decides nothing else: what is
written on an excluded member is checked like what is written on any other one.

* `Member.diagnostics_analyze_withExclude`: an exclusion that is in order has no part in what is
  said about a member.
* `EnumType.analyze_withExclusions`: whichever members are excluded, a type has the same
  diagnostics, and its descriptor is the same apart from what the exclusions themselves decide
  (`Descriptor.forgetExclusions`).
-/

namespace EnumAccessors

/-- An exclusion is in order: there is none, or it has no argument, or its first argument is a
truth value. -/
def Exclusion.IsProper (exclude : Option Attribute) : Prop :=
  ∀ a ∈ exclude, ∀ v ∈ a.arg? 0, v.bool?.isSome

instance (exclude : Option Attribute) : Decidable (Exclusion.IsProper exclude) :=
  inferInstanceAs (Decidable (∀ a ∈ exclude, ∀ v ∈ a.arg? 0, v.bool?.isSome))

/-! ### What exclusions decide -/

/-- A flag, whether it is excluded or not. -/
def Flag.forgetExclusion (f : Flag) : Flag := { f with isExcluded := false }

/-- A descriptor, whichever flags are excluded and for that not in any group. -/
def Descriptor.forgetExclusions (d : Descriptor) : Descriptor :=
  { d with
    flags := d.flags.map Flag.forgetExclusion
    groups := d.groups.map fun g => { g with members := [] } }

/-! ### Members -/

namespace Member

/-- The member with another exclusion, or with none. -/
def withExclude (m : Member) (exclude : Option Attribute) : Member := { m with exclude }

theorem diagnostics_analyze_withExclude {exclude : Option Attribute}
    (h : Exclusion.IsProper exclude) (m : Member) :
    (m.withExclude exclude).analyze.diagnostics = (m.withExclude none).analyze.diagnostics := by
  have hsilent : (Check.exclusion exclude .flagExclusionType).diagnostics = [] :=
    Check.diagnostics_exclusion_eq_nil.2 h
  simp only [analyze, withExclude, Checked.diagnostics_bind, hsilent]
  rfl

theorem forgetExclusion_toFlag_withExclude (declared : List GroupDeclaration) (m : Member)
    (exclude : Option Attribute) :
    ((m.withExclude exclude).toFlag declared).forgetExclusion =
      (m.toFlag declared).forgetExclusion := rfl

end Member

/-! ### Types -/

/-- Where a change of each element by its place is not seen, it may as well be missing. -/
theorem map_mapIdx_of_forall {α β : Type} {f : Nat → α → α} {g k : α → β} {xs : List α}
    (h : ∀ i (hi : i < xs.length), g (f i xs[i]) = k xs[i]) : (xs.mapIdx f).map g = xs.map k := by
  refine List.ext_getElem (by simp) fun i hi hi' => ?_
  rw [List.length_map] at hi'
  rw [List.getElem_map, List.getElem_mapIdx, List.getElem_map]
  exact h i hi'

namespace EnumType

/-- The type with an exclusion, or none, for each member by its place. -/
def withExclusions (e : EnumType) (exclusions : Nat → Option Attribute) : EnumType :=
  { e with members := e.members.mapIdx fun i m => m.withExclude (exclusions i) }

variable (e : EnumType) (project : Option Naming)

theorem isCovered_withExclusions (exclusions : Nat → Option Attribute) :
    (e.withExclusions exclusions).IsCovered ↔ e.IsCovered :=
  isCovered_congr rfl rfl

/-- References are told apart by nothing but what they are themselves. -/
theorem references_withExclusions (exclusions : Nat → Option Attribute) :
    (e.withExclusions exclusions).references = e.references := by
  rw [references, references, List.flatMap_def, List.flatMap_def]
  exact congrArg List.flatten (map_mapIdx_of_forall fun _ _ => rfl)

variable {e} in
theorem ownDiagnostics_withExclusions {exclusions : Nat → Option Attribute}
    (h : ∀ i < e.members.length, Exclusion.IsProper (exclusions i)) :
    (e.withExclusions exclusions).ownDiagnostics project =
      (e.withExclusions fun _ => none).ownDiagnostics project := by
  have hmembers : ∀ exclusions : Nat → Option Attribute,
      (∀ i < e.members.length, Exclusion.IsProper (exclusions i)) →
      ((e.withExclusions exclusions).members.map fun m => m.analyze.diagnostics) =
        e.members.map fun m => (m.withExclude none).analyze.diagnostics :=
    fun _ h => map_mapIdx_of_forall fun i hi => Member.diagnostics_analyze_withExclude (h i hi) _
  have hnone : ∀ i < e.members.length, Exclusion.IsProper none := fun _ _ _ ha => nomatch ha
  simp only [ownDiagnostics, List.flatMap_def, hmembers _ h, hmembers _ hnone]
  rfl

/-- The exclusions decide nothing else in the descriptor. -/
theorem forgetExclusions_describe_withExclusions (exclusions : Nat → Option Attribute) :
    ((e.withExclusions exclusions).describe project).value.forgetExclusions =
      (e.describe project).value.forgetExclusions := by
  have hflags : ((e.withExclusions exclusions).members.map (Member.toFlag e.declared)).map
      Flag.forgetExclusion =
        (e.members.map (Member.toFlag e.declared)).map Flag.forgetExclusion := by
    rw [List.map_map, List.map_map]
    exact map_mapIdx_of_forall fun i _ =>
      Member.forgetExclusion_toFlag_withExclude e.declared _ (exclusions i)
  have hdeclared : (e.withExclusions exclusions).declared = e.declared := rfl
  simp only [Descriptor.forgetExclusions, groups_eq_map_declared, List.map_map]
  simp only [value_describe, hdeclared, hflags]
  rfl

theorem diagnostics_analyze_withExclusions {e : EnumType} (project : Option Naming)
    {exclusions : Nat → Option Attribute}
    (h : ∀ i < e.members.length, Exclusion.IsProper (exclusions i)) :
    ((e.withExclusions exclusions).analyze project).diagnostics =
      ((e.withExclusions fun _ => none).analyze project).diagnostics := by
  by_cases hcovered : e.IsCovered
  · have hreported : (e.withExclusions exclusions).referenceDiagnostics =
        (e.withExclusions fun _ => none).referenceDiagnostics := rfl
    rw [diagnostics_analyze_of_isCovered ((e.isCovered_withExclusions _).2 hcovered),
      diagnostics_analyze_of_isCovered ((e.isCovered_withExclusions _).2 hcovered),
      ownDiagnostics_withExclusions project h, references_withExclusions,
      references_withExclusions, hreported]
  · have hsame : (e.withExclusions exclusions).analyze project =
        (e.withExclusions fun _ => none).analyze project :=
      analyze_congr_of_not_isCovered rfl rfl (mt (e.isCovered_withExclusions _).1 hcovered)
    rw [hsame]

theorem forgetExclusions_analyze_withExclusions (exclusions : Nat → Option Attribute) :
    ((e.withExclusions exclusions).analyze project).value.map Descriptor.forgetExclusions =
      (e.analyze project).value.map Descriptor.forgetExclusions :=
  map_value_analyze_congr rfl rfl (e.forgetExclusions_describe_withExclusions project exclusions)

/-- **Exclusion of a member hides nothing.**  Whichever members are excluded, as long as the
exclusions are in order, the diagnostics of a type are the same, and its descriptors have the same
flags apart from being excluded or not. -/
theorem analyze_withExclusions {e : EnumType} {exclusions exclusions' : Nat → Option Attribute}
    (h : ∀ i < e.members.length, Exclusion.IsProper (exclusions i))
    (h' : ∀ i < e.members.length, Exclusion.IsProper (exclusions' i)) (project : Option Naming) :
    ((e.withExclusions exclusions).analyze project).diagnostics =
      ((e.withExclusions exclusions').analyze project).diagnostics ∧
    ((e.withExclusions exclusions).analyze project).value.map Descriptor.forgetExclusions =
      ((e.withExclusions exclusions').analyze project).value.map Descriptor.forgetExclusions := by
  rw [diagnostics_analyze_withExclusions project h, diagnostics_analyze_withExclusions project h',
    forgetExclusions_analyze_withExclusions, forgetExclusions_analyze_withExclusions]
  exact ⟨rfl, rfl⟩

/-- Every member has something wrong with it, and once the first two are excluded and once the
last one.  The same is reported, but the group has other members. -/
theorem analyze_withExclusions_faulty :
    let e : EnumType :=
      { name := "E", fullName := "E", accessibility := .public, groups := [{ args := [.text "G"] }]
        members :=
          [{ name := "A", displayName := some { args := [.text "a b"] }
             groups := [{ args := [.text "G"] }, { args := [.text "H"] }] },
           { name := "B", exclude := some { args := [.int 0] }, accessorPrefix := some {}
             groups := [{ args := [.text "G"] }] },
           { name := "C", groups := [{ args := [.text "G"] }, {}] }] }
    let exclusions : Nat → Option Attribute := fun i => if i < 2 then some {} else none
    let exclusions' : Nat → Option Attribute := fun i =>
      some { args := [.bool (decide (i = 2)), .null] }
    let x := (e.withExclusions exclusions).analyze none
    let x' := (e.withExclusions exclusions').analyze none
    (∀ i < e.members.length, Exclusion.IsProper (exclusions i)) ∧
      (∀ i < e.members.length, Exclusion.IsProper (exclusions' i)) ∧
      x.diagnostics = x'.diagnostics ∧
      x.value.map Descriptor.forgetExclusions = x'.value.map Descriptor.forgetExclusions ∧
      x.diagnostics.map Diagnostic.kind =
        [.namingAbsent, .displayNameInvalid, .prefixAbsent, .unknownGroup,
          .membershipArguments] ∧
      x.value.map (fun d => d.groups.map Group.members) = some [["C"]] ∧
      x'.value.map (fun d => d.groups.map Group.members) = some [["A", "B"]] := by
  intro e exclusions exclusions' x x'
  have h : ∀ i < e.members.length, Exclusion.IsProper (exclusions i) := by decide
  have h' : ∀ i < e.members.length, Exclusion.IsProper (exclusions' i) := by decide
  obtain ⟨hdiagnostics, hvalue⟩ := analyze_withExclusions h h' none
  exact ⟨h, h', hdiagnostics, hvalue, by decide⟩

end EnumType

end EnumAccessors

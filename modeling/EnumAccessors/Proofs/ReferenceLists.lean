import EnumAccessors.Proofs.FixedTypes
import EnumAccessors.Proofs.Sources
import Mathlib.Data.List.Forall2

/-!
# What the references of a member decide

A member is in a declared group if any of its references names just that group.  In which order the
references stand and how often one is written does not matter for that, and a reference that is not
in order is as good as none.  Each reference is reported for itself, though.

* `EnumType.analyze_of_sameReferences`: types whose members have the same references, in any order
  and number, have the same groups, accessors and sources; where the references are only put into
  another order, so are the diagnostics.
* `EnumType.analyze_faultyReference`: one more reference that is not in order changes nothing but
  that it is reported, behind the references before it.
-/

namespace EnumAccessors

/-! ### Types with other references -/

namespace EnumType

/-- A type is what another one was but for the references of its members, which are related. -/
structure SameButReferences (r : List Attribute → List Attribute → Prop)
    (before after : EnumType) : Prop where
  others : { after with members := before.members } = before
  members : List.Forall₂ (Member.SameButReferences r) before.members after.members

/-- The members have the same references, in any order and any number. -/
def SameReferences (e e' : EnumType) : Prop :=
  e.SameButReferences (fun before after => ∀ a, a ∈ after ↔ a ∈ before) e'

/-- The members have the same references in another order. -/
def PermutedReferences (e e' : EnumType) : Prop :=
  e.SameButReferences (fun before after => after.Perm before) e'

end EnumType

theorem map_eq_of_forall₂ {α β γ : Type} {R : α → β → Prop} {f : α → γ} {g : β → γ}
    {xs : List α} {ys : List β} (h : List.Forall₂ R xs ys) (hfg : ∀ x y, R x y → g y = f x) :
    ys.map g = xs.map f := by
  induction h with
  | nil => rfl
  | cons hxy _ ih => rw [List.map_cons, List.map_cons, hfg _ _ hxy, ih]

namespace EnumType.SameButReferences

variable {r : List Attribute → List Attribute → Prop} {e e' : EnumType} {project : Option Naming}

theorem exists_eq (h : e.SameButReferences r e') : ∃ members, e' = { e with members } :=
  ⟨e'.members, by rw [← h.others]⟩

theorem isCovered_iff (h : e.SameButReferences r e') : e'.IsCovered ↔ e.IsCovered := by
  obtain ⟨members, rfl⟩ := h.exists_eq
  exact isCovered_congr rfl rfl

theorem referenceDiagnostics_eq (h : e.SameButReferences r e') :
    e'.referenceDiagnostics = e.referenceDiagnostics := by
  obtain ⟨members, rfl⟩ := h.exists_eq
  rfl

theorem analyze_eq_of_not_isCovered (h : e.SameButReferences r e') (hcovered : ¬ e.IsCovered) :
    e'.analyze project = e.analyze project := by
  obtain ⟨members, rfl⟩ := h.exists_eq
  exact analyze_congr_of_not_isCovered rfl rfl hcovered

theorem map_value_analyze {α : Type} {f : Descriptor → α} (h : e.SameButReferences r e')
    (hf : f (e'.describe project).value = f (e.describe project).value) :
    (e'.analyze project).value.map f = (e.analyze project).value.map f := by
  obtain ⟨members, rfl⟩ := h.exists_eq
  exact map_value_analyze_congr rfl rfl hf

/-- References have no part in the first half of the diagnostics. -/
theorem ownDiagnostics_eq (h : e.SameButReferences r e') :
    e'.ownDiagnostics project = e.ownDiagnostics project := by
  have hmembers : (e'.members.map fun m => m.analyze.diagnostics) =
      e.members.map fun m => m.analyze.diagnostics := by
    refine map_eq_of_forall₂ h.members fun m m' hm => ?_
    rw [← hm.others]
    rfl
  obtain ⟨members, rfl⟩ := h.exists_eq
  simp only [ownDiagnostics, List.flatMap_def, hmembers]

/-- The same members are excluded. -/
theorem included (h : e.SameButReferences r e') :
    List.Forall₂ (Member.SameButReferences r) e.included e'.included := by
  refine List.rel_filter (fun m m' hm => ?_) h.members
  rw [← hm.others]

end EnumType.SameButReferences

/-! ### Order and repetition -/

namespace EnumType

variable {e e' : EnumType} {project : Option Naming} {o : Options}

theorem PermutedReferences.sameReferences (h : e.PermutedReferences e') : e.SameReferences e' where
  others := h.others
  members := h.members.imp fun _ _ hm => ⟨hm.others, fun _ => hm.references.mem_iff⟩

/-- A group has the same members. -/
theorem SameReferences.membersOf_eq (h : e.SameReferences e') : e'.membersOf = e.membersOf := by
  funext group
  rw [membersOf, membersOf]
  refine map_eq_of_forall₂ (List.rel_filter (fun m m' hm => ?_) h.included) fun m m' hm => ?_
  · simp [hm.references]
  · rw [← hm.others]

/-- What is written on a type beside the references decides everything else about the
accessors. -/
theorem SameReferences.readAccessors_eq (h : e.SameReferences e') (project : Option Naming) :
    e'.readAccessors project = e.readAccessors project := by
  have hflags : e'.included.map (e'.readFlag (e'.chosenNaming project)) =
      e.included.map (e.readFlag (e.chosenNaming project)) := by
    refine map_eq_of_forall₂ h.included fun m m' hm => ?_
    obtain ⟨members, rfl⟩ := h.exists_eq
    rw [← hm.others]
    rfl
  have hgroups : e'.readGroup = e.readGroup := by
    funext n group
    rw [readGroup, readGroup, h.membersOf_eq]
    obtain ⟨members, rfl⟩ := h.exists_eq
    rfl
  rw [readAccessors, readAccessors, hflags, hgroups, h.membersOf_eq]
  obtain ⟨members, rfl⟩ := h.exists_eq
  rfl

theorem SameReferences.groups_describe_eq (h : e.SameReferences e') :
    (e'.describe project).value.groups = (e.describe project).value.groups := by
  rw [groups_describe, groups_describe, h.membersOf_eq]
  obtain ⟨members, rfl⟩ := h.exists_eq
  rfl

theorem SameReferences.accessors_describe_eq (h : e.SameReferences e') (project : Option Naming) :
    (e'.describe project).value.accessors = (e.describe project).value.accessors := by
  rw [accessors_describe, accessors_describe, h.readAccessors_eq]

/-- All that is generated comes from the accessors and what is written on the type itself. -/
theorem SameReferences.value_generate_eq (h : e.SameReferences e') :
    (e'.generate project o).value = (e.generate project o).value := by
  have haccessors := h.accessors_describe_eq project
  by_cases hcovered : e.IsCovered
  · rw [value_generate_of_isCovered hcovered,
      value_generate_of_isCovered (h.isCovered_iff.2 hcovered)]
    obtain ⟨members, rfl⟩ := h.exists_eq
    exact Descriptor.generate_congr rfl rfl rfl rfl rfl haccessors
  · rw [value_generate_of_not_isCovered hcovered,
      value_generate_of_not_isCovered (mt h.isCovered_iff.1 hcovered)]

theorem PermutedReferences.references_perm (h : e.PermutedReferences e') :
    e'.references.Perm e.references := by
  have hgroups : ∀ {members members' : List Member},
      List.Forall₂ (Member.SameButReferences fun before after => after.Perm before) members
        members' → (members'.flatMap Member.groups).Perm (members.flatMap Member.groups) := by
    intro members members' hmembers
    induction hmembers with
    | nil => exact .refl _
    | cons hm _ ih => exact hm.references.append ih
  exact hgroups h.members

theorem PermutedReferences.diagnostics_perm (h : e.PermutedReferences e') :
    (e'.analyze project).diagnostics.Perm (e.analyze project).diagnostics := by
  by_cases hcovered : e.IsCovered
  · rw [diagnostics_analyze_of_isCovered (h.isCovered_iff.2 hcovered),
      diagnostics_analyze_of_isCovered hcovered, h.ownDiagnostics_eq, h.referenceDiagnostics_eq]
    exact (h.references_perm.flatMap_right _).append_left _
  · rw [h.analyze_eq_of_not_isCovered hcovered]

/-- **Order and repetition of references do not matter.**  Types whose members have the same
references have the same groups, the same accessors and the same source.  If the references are
only put into another order, so are the diagnostics. -/
theorem analyze_of_sameReferences (h : e.SameReferences e') (project : Option Naming)
    (o : Options) :
    (e'.analyze project).value.map Descriptor.groups =
      (e.analyze project).value.map Descriptor.groups ∧
    (e'.analyze project).value.map Descriptor.accessors =
      (e.analyze project).value.map Descriptor.accessors ∧
    (e'.generate project o).value = (e.generate project o).value ∧
    (e.PermutedReferences e' →
      (e'.analyze project).diagnostics.Perm (e.analyze project).diagnostics) :=
  ⟨h.map_value_analyze h.groups_describe_eq, h.map_value_analyze (h.accessors_describe_eq project),
    h.value_generate_eq, PermutedReferences.diagnostics_perm⟩

/-- References to three groups, of which one is not declared, in another order.  On the other type
the references are repeated too, and the unknown group is reported for each. -/
theorem analyze_of_sameReferences_unknown :
    let known : Attribute := { args := [.text "G"] }
    let other : Attribute := { args := [.text "H"], location := some ⟨"e.cs", 2, 5⟩ }
    let unknown : Attribute := { args := [.text "K"], location := some ⟨"e.cs", 3, 5⟩ }
    let ofReferences : List Attribute → List Attribute → EnumType := fun xs ys =>
      { name := "E", fullName := "E", accessibility := .public
        naming := some { args := [.text "PASCAL", .text "PASCAL"] }
        groups := [{ args := [.text "G"] }, { args := [.text "H"] }]
        members := [{ name := "A", groups := xs }, { name := "B", groups := ys }] }
    let e := ofReferences [known, unknown, other] [unknown, {}]
    let permuted := ofReferences [unknown, other, known] [{}, unknown]
    let repeated := ofReferences [other, unknown, known, other, unknown] [{}, unknown, unknown]
    e.SameReferences permuted ∧ e.PermutedReferences permuted ∧ e.SameReferences repeated ∧
      (permuted.analyze none).diagnostics.Perm (e.analyze none).diagnostics ∧
      (permuted.analyze none).diagnostics ≠ (e.analyze none).diagnostics ∧
      (repeated.analyze none).value.map Descriptor.groups =
        (e.analyze none).value.map Descriptor.groups ∧
      (repeated.generate none {}).value = (e.generate none {}).value ∧
      (repeated.analyze none).diagnostics.length = 5 ∧ (e.analyze none).diagnostics.length = 3 := by
  intro known other unknown ofReferences e permuted repeated
  have hpermuted : e.PermutedReferences permuted := by
    refine ⟨rfl, .cons ⟨rfl, ?_⟩ (.cons ⟨rfl, ?_⟩ .nil)⟩ <;> decide
  have hrepeated : e.SameReferences repeated := by
    refine ⟨rfl, .cons ⟨rfl, fun a => ?_⟩ (.cons ⟨rfl, fun a => ?_⟩ .nil)⟩
    · simp only [List.mem_cons, List.not_mem_nil]
      tauto
    · simp only [List.mem_cons, List.not_mem_nil]
      tauto
  obtain ⟨-, -, -, hdiagnostics⟩ := analyze_of_sameReferences hpermuted.sameReferences none {}
  obtain ⟨hgroups, -, hgenerate, -⟩ := analyze_of_sameReferences hrepeated none {}
  exact ⟨hpermuted.sameReferences, hpermuted, hrepeated, hdiagnostics hpermuted, by decide, hgroups,
    hgenerate, by decide, by decide⟩

end EnumType

/-! ### References that are not in order -/

theorem Argument.text?_eq_some_iff {v : Argument} {s : String} :
    v.text? = some s ↔ v = .text s := by
  cases v <;> simp [text?]

/-- The diagnostic about a reference that names no declared group: it stands at the reference, and
says what is wrong with it. -/
structure Diagnostic.ReportsReference (d : Diagnostic) (a : Attribute) : Prop where
  location : d.location = a.location
  arguments : a.args.length ≠ 1 → d.kind = .membershipArguments ∧ d.args = []
  argumentType : ∀ v, a.args = [v] → v.text? = none →
    d.kind = .groupNameType ∧ d.args = [v.typeName]
  unknown : ∀ name, a.args = [.text name] → d.kind = .unknownGroup ∧ d.args = [name]

namespace GroupDeclaration

variable {declared : List GroupDeclaration} {a : Attribute}

theorem diagnostics_resolveOne_of_length_ne (h : a.args.length ≠ 1) :
    (resolveOne declared a).diagnostics = [⟨.membershipArguments, a.location, []⟩] := by
  unfold resolveOne
  split
  · next ha => simp [ha] at h
  · next ha => simp [ha] at h
  · rfl

theorem diagnostics_resolveOne_of_text?_eq_none {v : Argument} (ha : a.args = [v])
    (hv : v.text? = none) :
    (resolveOne declared a).diagnostics = [⟨.groupNameType, a.location, [v.typeName]⟩] := by
  cases v with
  | text name => cases hv
  | bool | int | null => simp [resolveOne, ha]

/-- A reference that does not count for a group is reported once. -/
theorem exists_reportsReference (h : (resolveOne declared a).value = none) :
    ∃ d : Diagnostic, (resolveOne declared a).diagnostics = [d] ∧ d.ReportsReference a := by
  by_cases hlength : a.args.length = 1
  · obtain ⟨v, ha⟩ := List.length_eq_one_iff.1 hlength
    cases hv : v.text? with
    | none =>
      refine ⟨_, diagnostics_resolveOne_of_text?_eq_none ha hv, rfl, fun hne => absurd hlength hne,
        fun w hw _ => ?_, fun name hname => ?_⟩
      · obtain rfl : v = w := List.singleton_inj.1 (ha.symm.trans hw)
        exact ⟨rfl, rfl⟩
      · obtain rfl : v = .text name := List.singleton_inj.1 (ha.symm.trans hname)
        cases hv
    | some name =>
      rw [Argument.text?_eq_some_iff.1 hv] at ha
      have hdeclares : declares declared name = false := by
        rw [← Bool.not_eq_true]
        intro hdeclares
        rw [value_resolveOne_eq_some_iff.2 ⟨ha, hdeclares⟩] at h
        cases h
      refine ⟨_, diagnostics_resolveOne_of_not_declares ha hdeclares, rfl,
        fun hne => absurd hlength hne, fun w hw htext => ?_, fun name' hname => ?_⟩
      · obtain rfl : .text name = w := List.singleton_inj.1 (ha.symm.trans hw)
        cases htext
      · obtain ⟨rfl⟩ : Argument.text name = .text name' :=
          List.singleton_inj.1 (ha.symm.trans hname)
        exact ⟨rfl, rfl⟩
  · refine ⟨_, diagnostics_resolveOne_of_length_ne hlength, rfl, fun _ => ⟨rfl, rfl⟩,
      fun v hv => ?_, fun name hname => ?_⟩
    · simp [hv] at hlength
    · simp [hname] at hlength

end GroupDeclaration

/-- **A reference that is not in order is reported, and that is all.**  Wherever on a member one
more reference stands that does not name just a declared group, the type has the descriptor and the
source that it has without it, and one diagnostic more, which stands behind those about the
references before it. -/
theorem EnumType.analyze_faultyReference {e : EnumType} {before after : List Member} {m : Member}
    {firsts lasts : List Attribute} {a : Attribute} (hcovered : e.IsCovered)
    (hmembers : e.members = before ++ m :: after) (hgroups : m.groups = firsts ++ lasts)
    (ha : ∀ name ∈ GroupDeclaration.declaredNames e.groups, a.args ≠ [.text name])
    (project : Option Naming) :
    let e' : EnumType :=
      { e with members := before ++ { m with groups := firsts ++ a :: lasts } :: after }
    let earlier : List Diagnostic := e.ownDiagnostics project ++
      (before.flatMap Member.groups ++ firsts).flatMap e.referenceDiagnostics
    let later : List Diagnostic :=
      (lasts ++ after.flatMap Member.groups).flatMap e.referenceDiagnostics
    (∃ descriptor, (e.analyze project).value = some descriptor ∧
      (e'.analyze project).value = some descriptor) ∧
    (∀ o, (e'.generate project o).value = (e.generate project o).value) ∧
    (e.analyze project).diagnostics = earlier ++ later ∧
    ∃ d : Diagnostic, d.ReportsReference a ∧
      (e'.analyze project).diagnostics = earlier ++ d :: later := by
  intro e' earlier later
  have hnone : (GroupDeclaration.resolveOne e.declared a).value = none := by
    rw [Option.eq_none_iff_forall_ne_some]
    intro name hname
    obtain ⟨hargs, hdeclares⟩ := GroupDeclaration.value_resolveOne_eq_some_iff.1 hname
    exact ha name (declares_declared.1 hdeclares) hargs
  have hcovered' : e'.IsCovered := ⟨hcovered.1, hcovered.2⟩
  have hvalue : (e'.analyze project).value = (e.analyze project).value := by
    have hdrops : e'.Drops a e := by
      refine ⟨before, _, after, firsts, lasts, rfl, rfl, ?_⟩
      rw [← hgroups, ← hmembers]
    exact (hdrops.value_analyze hnone project).symm
  obtain ⟨d, hd, hreports⟩ := GroupDeclaration.exists_reportsReference hnone
  refine ⟨?_, fun o => ?_, ?_, d, hreports, ?_⟩
  · rw [hvalue]
    exact ⟨_, value_analyze_eq_some_iff.2 ⟨hcovered, rfl⟩,
      value_analyze_eq_some_iff.2 ⟨hcovered, rfl⟩⟩
  · rw [generate, generate, Checked.value_map, Checked.value_map, hvalue]
  · have hreferences : e.references =
        (before.flatMap Member.groups ++ firsts) ++ (lasts ++ after.flatMap Member.groups) := by
      simp [references, hmembers, hgroups]
    rw [diagnostics_analyze_of_isCovered hcovered, hreferences, List.flatMap_append,
      List.append_assoc]
  · have hreferences : e'.references =
        (before.flatMap Member.groups ++ firsts) ++
          a :: (lasts ++ after.flatMap Member.groups) := by
      simp [references, e']
    have hown : e'.ownDiagnostics project = e.ownDiagnostics project := by
      simp only [ownDiagnostics, hmembers, e', List.flatMap_append, List.flatMap_cons]
      rfl
    have hreported : e'.referenceDiagnostics = e.referenceDiagnostics := rfl
    have hadded : e.referenceDiagnostics a = [d] := hd
    rw [diagnostics_analyze_of_isCovered hcovered', hreferences, hown, hreported,
      List.flatMap_append, List.flatMap_cons, hadded, List.singleton_append, List.append_assoc]

/-- A reference to a group whose only declaration is no identifier is put between two references to
one group on an excluded member, which has another faulty reference. -/
theorem EnumType.analyze_faultyReference_excluded :
    let known : Attribute := { args := [.text "G"] }
    let a : Attribute := { args := [.text "a b"], location := some ⟨"e.cs", 7, 3⟩ }
    let first : Member := { name := "A", groups := [{ args := [.text "K"] }] }
    let m : Member := { name := "B", exclude := some {}, groups := [known, {}, known] }
    let last : Member := { name := "C", groups := [{ args := [.null] }, known] }
    let e : EnumType :=
      { name := "E", fullName := "E", accessibility := .internal
        exclude := some { args := [.bool false] }
        groups := [{ args := [.text "G"] }, { args := [.text "a b"] }]
        members := [first, m, last] }
    let e' : EnumType :=
      { e with members := [first, { m with groups := [known, a, {}, known] }, last] }
    e.IsCovered ∧ (∀ name ∈ GroupDeclaration.declaredNames e.groups, a.args ≠ [.text name]) ∧
      (∃ descriptor, (e.analyze none).value = some descriptor ∧
        (e'.analyze none).value = some descriptor) ∧
      (e'.generate none {}).value = (e.generate none {}).value ∧
      (e.analyze none).diagnostics.map Diagnostic.kind =
        [.namingAbsent, .groupNameInvalid, .unknownGroup, .membershipArguments, .groupNameType] ∧
      (e'.analyze none).diagnostics.map Diagnostic.kind =
        [.namingAbsent, .groupNameInvalid, .unknownGroup, .unknownGroup, .membershipArguments,
          .groupNameType] ∧
      (e'.analyze none).diagnostics[3]? = some ⟨.unknownGroup, a.location, ["a b"]⟩ := by
  intro known a first m last e e'
  have hcovered : e.IsCovered := by decide
  have hmembers : e.members = [first] ++ m :: [last] := rfl
  have hgroups : m.groups = [known] ++ [{}, known] := rfl
  have ha : ∀ name ∈ GroupDeclaration.declaredNames e.groups, a.args ≠ [.text name] := by decide
  obtain ⟨hdescriptor, hgenerate, -, d, hd, hafter⟩ :=
    analyze_faultyReference hcovered hmembers hgroups ha none
  refine ⟨hcovered, ha, hdescriptor, hgenerate {}, by decide, by decide, ?_⟩
  obtain ⟨hkind, hargs⟩ := hd.unknown "a b" rfl
  have hreported : d = ⟨.unknownGroup, a.location, ["a b"]⟩ := by
    rw [← hd.location, ← hkind, ← hargs]
  rw [← hreported]
  exact (congrArg (·[3]?) hafter).trans rfl

end EnumAccessors

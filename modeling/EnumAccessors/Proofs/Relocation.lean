import EnumAccessors.Proofs.Cancellation

/-!
# Places are only copied

The analysis never looks at a place: it copies places from what is written on types and members
onto diagnostics.  So if all places of a compilation are replaced by others (`relocate`), different
ones perhaps by the same, a pass gives what it gave before, with the places of its diagnostics
replaced in the same way (`Compilation.run_relocate`).

Fixes compare places, to find the reference that a diagnostic is about.  They stay the same where
different places are replaced by different ones (`Output.fixes_relocate`).
-/

namespace EnumAccessors

variable (f : Location → Location)

/-! ### Replacing places -/

/-- The attribute at another place. -/
def Attribute.relocate (a : Attribute) : Attribute := { a with location := a.location.map f }

/-- The member at another place, and all that is written on it. -/
def Member.relocate (m : Member) : Member where
  name := m.name
  location := m.location.map f
  exclude := m.exclude.map (Attribute.relocate f)
  displayName := m.displayName.map (Attribute.relocate f)
  accessorPrefix := m.accessorPrefix.map (Attribute.relocate f)
  groups := m.groups.map (Attribute.relocate f)

/-- The type with all that is written on it and its members at other places. -/
def EnumType.relocate (e : EnumType) : EnumType :=
  { e with
    exclude := e.exclude.map (Attribute.relocate f)
    accessorPrefix := e.accessorPrefix.map (Attribute.relocate f)
    naming := e.naming.map (Attribute.relocate f)
    groups := e.groups.map (Attribute.relocate f)
    members := e.members.map (Member.relocate f) }

/-- The declaration at another place, and the type that it stands for. -/
def Declaration.relocate (d : Declaration) : Declaration where
  name := d.name
  location := d.location.map f
  symbol := d.symbol.map (EnumType.relocate f)

/-- The compilation with everything in it at other places. -/
def Compilation.relocate (c : Compilation) : Compilation where
  naming := c.naming.map (Attribute.relocate f)
  enums := c.enums.map (Declaration.relocate f)

/-- The diagnostic at another place. -/
def Diagnostic.relocate (d : Diagnostic) : Diagnostic := { d with location := d.location.map f }

/-- The report with its diagnostics at other places. -/
def Report.relocate (r : Report) : Report :=
  { r with diagnostics := r.diagnostics.map (Diagnostic.relocate f) }

/-- The output with its diagnostics at other places; the sources stay as they are. -/
def Output.relocate (out : Output) : Output where
  units := out.units
  diagnostics := out.diagnostics.map (Diagnostic.relocate f)
  reports := out.reports.map (Report.relocate f)

namespace Checked

variable {α β : Type}

/-- The same value, with the diagnostics at other places. -/
def relocate (x : Checked α) : Checked α where
  value := x.value
  diagnostics := x.diagnostics.map (Diagnostic.relocate f)

@[simp] theorem value_relocate (x : Checked α) : (x.relocate f).value = x.value := rfl

@[simp] theorem diagnostics_relocate (x : Checked α) :
    (x.relocate f).diagnostics = x.diagnostics.map (Diagnostic.relocate f) := rfl

@[simp] theorem relocate_defaulted (a : α) (d : Diagnostic) :
    (defaulted a d).relocate f = defaulted a (d.relocate f) := rfl

@[simp] theorem relocate_pure (a : α) : (pure a : Checked α).relocate f = pure a := rfl

@[simp] theorem relocate_map (g : α → β) (x : Checked α) :
    (x.map g).relocate f = (x.relocate f).map g := rfl

@[simp] theorem relocate_bind (x : Checked α) (g : α → Checked β) :
    (x >>= g).relocate f = x.relocate f >>= fun a => (g a).relocate f := by
  ext1
  · rfl
  · exact List.map_append

/-- Where each check of an element only copies places, so do the checks of a list. -/
theorem relocate_each {g h : α → Checked β} {move : α → α}
    (hg : ∀ a, h (move a) = (g a).relocate f) (xs : List α) :
    each h (xs.map move) = (each g xs).relocate f := by
  ext1
  · simp [hg, Function.comp_def]
  · simp [hg, List.flatMap_map, List.map_flatMap]

end Checked

/-! ### Checks of single attributes -/

@[simp] theorem Attribute.arg?_relocate (a : Attribute) (index : Nat) :
    (a.relocate f).arg? index = a.arg? index := rfl

@[simp] theorem Attribute.args_relocate (a : Attribute) : (a.relocate f).args = a.args := rfl

namespace Check

theorem exclusion_relocate (attr : Option Attribute) (kind : Diagnostic.Kind) :
    exclusion (attr.map (Attribute.relocate f)) kind = (exclusion attr kind).relocate f := by
  cases attr with
  | none => rfl
  | some a =>
    simp only [exclusion, Option.map_some, Attribute.arg?_relocate]
    split <;> rfl

theorem identifierArgument_relocate (v : Argument) (location : Option Location)
    (kinds : IdentifierKinds) :
    identifierArgument v (location.map f) kinds =
      (identifierArgument v location kinds).relocate f := by
  cases v with
  | text s =>
    simp only [identifierArgument]
    split <;> rfl
  | bool _ => rfl
  | int _ => rfl
  | null => rfl

/-- The place of the owner takes part in the same way as that of the attribute. -/
theorem identifier_relocate (attr : Option Attribute) (owner : Option Location)
    (kinds : IdentifierKinds) :
    identifier (attr.map (Attribute.relocate f)) (owner.map f) kinds =
      (identifier attr owner kinds).relocate f := by
  cases attr with
  | none => rfl
  | some a =>
    have hplace : (a.relocate f).location.or (owner.map f) = (a.location.or owner).map f :=
      Option.map_or.symm
    simp only [identifier, Option.map_some, Attribute.arg?_relocate, hplace]
    split
    · rfl
    · exact identifierArgument_relocate f _ _ kinds

theorem optionalIdentifier_relocate (a : Attribute) (index : Nat) (kinds : IdentifierKinds) :
    optionalIdentifier (a.relocate f) index kinds =
      (optionalIdentifier a index kinds).relocate f := by
  simp only [optionalIdentifier, Attribute.arg?_relocate]
  split
  · rfl
  · exact identifierArgument_relocate f _ _ kinds

theorem casing_relocate (c : Casing) (kind : Diagnostic.Kind) (location : Option Location) :
    casing c kind (location.map f) = (casing c kind location).relocate f := by
  unfold casing
  split <;> rfl

theorem naming_relocate (a : Attribute) (fallback : Naming) :
    naming (a.relocate f) fallback = (naming a fallback).relocate f := by
  have hplace : (a.relocate f).location = a.location.map f := rfl
  simp only [naming, Attribute.arg?_relocate, hplace]
  split
  · simp only [casing_relocate, Checked.relocate_bind, Checked.relocate_pure]
  · rfl

theorem projectNaming_relocate (attr : Option Attribute) :
    projectNaming (attr.map (Attribute.relocate f)) = (projectNaming attr).relocate f := by
  cases attr with
  | none => rfl
  | some a =>
    simp only [projectNaming, Option.map_some, Attribute.args_relocate, naming_relocate]
    by_cases hfew : a.args.length < 2
    · rw [if_pos hfew, if_pos hfew]
      rfl
    · rw [if_neg hfew, if_neg hfew, Checked.relocate_map]

theorem typeNaming_relocate (attr : Option Attribute) (project : Option Naming) :
    typeNaming (attr.map (Attribute.relocate f)) project =
      (typeNaming attr project).relocate f := by
  cases attr with
  | none => cases project <;> rfl
  | some a => exact naming_relocate f a _

end Check

/-! ### Groups -/

namespace GroupDeclaration

theorem collectFrom_relocate (owner : Option Location) (declared : List GroupDeclaration)
    (attrs : List Attribute) :
    collectFrom (owner.map f) declared (attrs.map (Attribute.relocate f)) =
      (collectFrom owner declared attrs).relocate f := by
  induction attrs generalizing declared with
  | nil => rfl
  | cons a rest ih =>
    have hname := Check.identifier_relocate f (some a) owner .groupName
    rw [Option.map_some] at hname
    rw [List.map_cons, collectFrom, collectFrom, hname, Checked.relocate_bind]
    refine congrArg _ (funext fun given => ?_)
    split
    · exact ih declared
    · split
      · exact ih declared
      · rw [Checked.relocate_bind, Check.optionalIdentifier_relocate]
        exact congrArg _ (funext fun _ => ih _)

theorem resolveOne_relocate (declared : List GroupDeclaration) (a : Attribute) :
    resolveOne declared (a.relocate f) = (resolveOne declared a).relocate f := by
  simp only [resolveOne, Attribute.args_relocate]
  split
  · split <;> rfl
  · rfl
  · rfl

theorem resolve_relocate (attrs : List Attribute) (declared : List GroupDeclaration) :
    resolve (attrs.map (Attribute.relocate f)) declared = (resolve attrs declared).relocate f := by
  rw [resolve, Checked.relocate_each f (resolveOne_relocate f declared), resolve,
    Checked.relocate_map]

end GroupDeclaration

/-! ### Types and declarations -/

theorem Member.analyze_relocate (m : Member) :
    (m.relocate f).analyze = m.analyze.relocate f := by
  simp only [analyze, relocate, Check.exclusion_relocate, Check.identifier_relocate,
    Checked.relocate_bind, Checked.relocate_pure]

theorem Member.assignGroups_relocate (declared : List GroupDeclaration)
    (members : List (Member × Flag)) :
    assignGroups declared (members.map fun p => (p.1.relocate f, p.2)) =
      (assignGroups declared members).relocate f := by
  refine Checked.relocate_each f (fun p => ?_) members
  rw [Checked.relocate_map, ← GroupDeclaration.resolve_relocate]
  rfl

namespace EnumType

theorem describe_relocate (e : EnumType) (project : Option Naming) :
    (e.relocate f).describe project = (e.describe project).relocate f := by
  have hprefix := Check.identifier_relocate f e.accessorPrefix none .accessorPrefix
  have hflags := Checked.relocate_each f (Member.analyze_relocate f) e.members
  have hdeclared := GroupDeclaration.collectFrom_relocate f none [] e.groups
  have hzip : ∀ flags : List Flag, (e.members.map (Member.relocate f)).zip flags =
      (e.members.zip flags).map fun p => (p.1.relocate f, p.2) := fun flags => List.zip_map_left
  rw [Option.map_none] at hprefix hdeclared
  simp only [describe, relocate, GroupDeclaration.collect, hprefix, hflags, hdeclared, hzip,
    Check.typeNaming_relocate, Member.assignGroups_relocate, Checked.relocate_bind,
    Checked.relocate_pure]

theorem analyze_relocate (e : EnumType) (project : Option Naming) :
    (e.relocate f).analyze project = (e.analyze project).relocate f := by
  have hexclude := Check.exclusion_relocate f e.exclude .enumExclusionType
  have haccessibility : (e.relocate f).accessibility = e.accessibility := rfl
  have hfield : (e.relocate f).exclude = e.exclude.map (Attribute.relocate f) := rfl
  simp only [analyze, haccessibility, hfield, hexclude]
  split
  · rw [Checked.relocate_bind]
    refine congrArg _ (funext fun isExcluded => ?_)
    split
    · rfl
    · simp only [describe_relocate, Checked.relocate_bind, Checked.relocate_pure]
  · rfl

end EnumType

theorem Declaration.analyze_relocate (d : Declaration) (project : Option Naming) :
    (d.relocate f).analyze project = (d.analyze project).relocate f := by
  cases h : d.symbol with
  | none => simp [analyze, relocate, h, Diagnostic.relocate]
  | some e => simp [analyze, relocate, h, EnumType.analyze_relocate]

/-! ### Outputs -/

theorem Declaration.unit?_relocate (o : Options) (project : Option Naming) (d : Declaration) :
    (d.relocate f).unit? o project = d.unit? o project := by
  rw [unit?, analyze_relocate, Checked.value_relocate, unit?]

theorem Report.of?_relocate (project : Option Naming) (d : Declaration) (index : Nat) :
    of? project (d.relocate f) index = (of? project d index).map (relocate f) := by
  simp only [of?, Declaration.analyze_relocate, Checked.diagnostics_relocate, List.map_eq_nil_iff]
  split <;> rfl

theorem Report.all_relocate (project : Option Naming) (start : Nat) (ds : List Declaration) :
    all project start (ds.map (Declaration.relocate f)) =
      (all project start ds).map (relocate f) := by
  rw [all, all, List.zipIdx_map, List.filterMap_map, List.map_filterMap]
  refine congrArg (List.filterMap · (ds.zipIdx start)) (funext fun p => ?_)
  exact of?_relocate f project p.1 p.2

namespace Compilation

variable (c : Compilation) (o : Options)

theorem output_relocate : (c.relocate f).output o = (c.output o).relocate f := by
  have hproject : Check.projectNaming (c.relocate f).naming =
      (Check.projectNaming c.naming).relocate f := Check.projectNaming_relocate f c.naming
  simp only [output, hproject, Checked.value_relocate, Checked.diagnostics_relocate,
    Output.relocate, Output.mk.injEq]
  refine ⟨?_, ?_, Report.all_relocate f _ 0 c.enums⟩
  · rw [relocate, List.filterMap_map]
    exact congrArg (List.filterMap · c.enums) (funext (Declaration.unit?_relocate f o _))
  · rw [relocate, List.flatMap_map, List.map_append, List.map_flatMap]
    simp only [Declaration.analyze_relocate, Checked.diagnostics_relocate]

theorem map_run_relocate (cancelled : Nat → Bool) :
    (c.relocate f).run o cancelled = (c.run o cancelled).map (Output.relocate f) :=
  run_eq_map (List.length_map _) (output_relocate f c o) cancelled

end Compilation

/-! ### Fixes -/

section Fixes

variable {f}

theorem EnumType.mentionsGroup_relocate (e : EnumType) (group : String) :
    (e.relocate f).mentionsGroup group = e.mentionsGroup group := by
  simp only [mentionsGroup, relocate, List.any_map]
  rfl

/-- Different places are replaced by different ones, so the same places are equal as before. -/
theorem EnumType.isReference_relocate (hf : Function.Injective f) (group : String)
    (location : Option Location) (a : Attribute) :
    isReference group (location.map f) (a.relocate f) = isReference group location a := by
  have hplace : ((a.relocate f).location == location.map f) = (a.location == location) := by
    rw [Bool.eq_iff_iff, beq_iff_eq, beq_iff_eq]
    exact Option.map_inj_right fun _ _ => @hf _ _
  rw [isReference, hplace, Option.isNone_map]
  rfl

theorem EnumType.findReference_relocate (hf : Function.Injective f) (e : EnumType) (group : String)
    (location : Option Location) :
    (e.relocate f).findReference group (location.map f) = e.findReference group location := by
  simp only [findReference, relocate, List.findSome?_map]
  refine congrArg (List.findSome? · e.members) (funext fun m => ?_)
  simp only [Function.comp_apply, Member.relocate, List.findIdx?_map]
  refine congrArg (Option.map _) (congrArg (List.findIdx? · m.groups) (funext fun a => ?_))
  exact isReference_relocate hf group location a

theorem Diagnostic.fixes_relocate (hf : Function.Injective f) (d : Diagnostic) (e : EnumType) :
    (d.relocate f).fixes (e.relocate f) = d.fixes e := by
  have hkind : (d.relocate f).kind = d.kind := rfl
  have hargs : (d.relocate f).args = d.args := rfl
  have hplace : (d.relocate f).location = d.location.map f := rfl
  simp only [fixes, hkind, hargs, hplace, EnumType.mentionsGroup_relocate,
    EnumType.findReference_relocate hf]

theorem Output.symbolOf_relocate (c : Compilation) (r : Report) :
    symbolOf (c.relocate f) (r.relocate f) = (symbolOf c r).map (EnumType.relocate f) := by
  have hindex : (r.relocate f).index = r.index := rfl
  rw [symbolOf, hindex, Compilation.relocate, List.getElem?_map, symbolOf]
  cases c.enums[r.index]? <;> rfl

/-- The same edits are offered in the same order. -/
theorem Output.fixes_relocate (hf : Function.Injective f) (out : Output) (c : Compilation) :
    (out.relocate f).fixes (c.relocate f) =
      (out.fixes c).map fun p => (p.1.relocate f, p.2) := by
  have hreports : (out.relocate f).reports = out.reports.map (Report.relocate f) := rfl
  rw [fixes, hreports, List.flatMap_map, fixes, List.map_flatMap]
  refine congrArg (List.flatMap · out.reports) (funext fun r => ?_)
  rw [symbolOf_relocate]
  cases symbolOf c r with
  | none => rfl
  | some e =>
    have hdiagnostics : (r.relocate f).diagnostics = r.diagnostics.map (Diagnostic.relocate f) :=
      rfl
    simp only [Option.map_some, hdiagnostics, List.flatMap_map, List.map_flatMap, List.map_map,
      Diagnostic.fixes_relocate hf]
    rfl

end Fixes

/-! ### Passes -/

/-- **Places are only copied.**  A pass over a compilation with other places gives the same
sources, and the same diagnostics and reports with their places replaced alike; it fails if the
other does, and in the same way.  Where different places are replaced by different ones, the same
edits are offered in the same order. -/
theorem Compilation.run_relocate (f : Location → Location) (c : Compilation) (o : Options) :
    (∀ cancelled, (c.relocate f).run o cancelled = (c.run o cancelled).map (Output.relocate f)) ∧
    (o.fault? = none → ∃ out, c.run o (fun _ => false) = .ok out ∧
      (c.relocate f).run o (fun _ => false) = .ok (out.relocate f)) ∧
    (Function.Injective f → ∀ out : Output,
      (out.relocate f).fixes (c.relocate f) =
        (out.fixes c).map fun p => (p.1.relocate f, p.2)) := by
  refine ⟨map_run_relocate f c o, ?_, fun hf out => Output.fixes_relocate hf out c⟩
  intro ho
  have hrun := run_eq_ok ho (c := c) fun _ _ => rfl
  refine ⟨c.output o, hrun, ?_⟩
  rw [map_run_relocate, hrun]
  rfl

/-- Lines and columns change places: the reference to an unknown group is still found where it
stands, and the attribute without a place is still reported at the place of its member. -/
theorem Compilation.run_relocate_swapped :
    let swap : Location → Location := fun l => ⟨l.file, l.column, l.line⟩
    let c : Compilation :=
      { enums :=
          [.resolved { name := "E", fullName := "E", accessibility := .public
                       members :=
                         [{ name := "A", location := some ⟨"e.cs", 3, 4⟩, displayName := some {}
                            groups := [{ args := [.text "G"], location := some ⟨"e.cs", 1, 2⟩ },
                              { args := [.text "G"], location := some ⟨"e.cs", 2, 1⟩ }] }] }] }
    Options.fault? {} = none ∧ Function.Injective swap ∧
      ∃ out, (c.relocate swap).run {} (fun _ => false) = .ok out ∧
        out.diagnostics.map Diagnostic.location =
          [none, some ⟨"e.cs", 4, 3⟩, some ⟨"e.cs", 2, 1⟩, some ⟨"e.cs", 1, 2⟩] ∧
        (out.fixes (c.relocate swap)).map Prod.snd =
          [.addGroup "G", .removeMembership "A" 0, .addGroup "G", .removeMembership "A" 1] := by
  intro swap c
  have ho : Options.fault? {} = none := by decide
  have hswap : Function.Injective swap := by
    rintro ⟨file, line, column⟩ ⟨file', line', column'⟩ h
    obtain ⟨rfl, rfl, rfl⟩ := Location.mk.inj h
    rfl
  obtain ⟨-, hrun, hfixes⟩ := run_relocate swap c {}
  obtain ⟨out, hout, hrelocated⟩ := hrun ho
  obtain rfl : c.output {} = out := Except.ok.inj ((run_eq_ok ho fun _ _ => rfl).symm.trans hout)
  refine ⟨ho, hswap, (c.output {}).relocate swap, hrelocated, by decide, ?_⟩
  rw [hfixes hswap, List.map_map]
  decide

end EnumAccessors

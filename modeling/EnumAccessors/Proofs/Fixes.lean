import EnumAccessors.Proofs.References

/-!
# What fixes do

A fix is offered for an unknown group that no declaration mentions (`Diagnostic.mem_fixes`).  What
applying it does to the analysis is told exactly: declaring an identifier takes away the
diagnostics about that group and no others (`Edit.diagnostics_addGroup`), and dropping a reference
takes away the one diagnostic about it (`Edit.diagnostics_removeMembership`).
-/

namespace EnumAccessors

/-! ### Offered fixes -/

namespace EnumType

variable {e : EnumType} {group : String}

theorem mentionsGroup_iff :
    e.mentionsGroup group = true ↔ ∃ a ∈ e.groups, a.arg? 0 = some (.text group) := by
  simp [mentionsGroup]

theorem mentionsGroup_eq_false_iff :
    e.mentionsGroup group = false ↔ ∀ a ∈ e.groups, a.arg? 0 ≠ some (.text group) := by
  simp [mentionsGroup]

/-- The declared groups are the mentioned ones that are identifiers. -/
theorem mem_declaredNames_iff :
    group ∈ GroupDeclaration.declaredNames e.groups ↔
      e.mentionsGroup group = true ∧ Identifier.isValid group = true := by
  rw [GroupDeclaration.mem_declaredNames, mentionsGroup_iff]
  constructor
  · rintro ⟨a, ha, hid⟩
    obtain ⟨harg, hvalid⟩ := Attribute.identifier?_eq_some_iff.1 hid
    exact ⟨⟨a, ha, harg⟩, hvalid⟩
  · rintro ⟨⟨a, ha, harg⟩, hvalid⟩
    exact ⟨a, ha, Attribute.identifier?_eq_some_iff.2 ⟨harg, hvalid⟩⟩

theorem declares_eq_false_of_not_mentionsGroup (h : e.mentionsGroup group = false) :
    GroupDeclaration.declares e.declared group = false := by
  rw [← Bool.not_eq_true, declares_declared, mem_declaredNames_iff, h]
  simp

end EnumType

namespace Diagnostic

variable {d : Diagnostic} {e : EnumType} {edit : Edit}

theorem mem_fixes :
    edit ∈ d.fixes e ↔ ∃ group rest member index, d.kind = .unknownGroup ∧
      d.args = group :: rest ∧ e.mentionsGroup group = false ∧
      e.findReference group d.location = some (member, index) ∧
      (edit = .addGroup group ∨ edit = .removeMembership member index) := by
  constructor
  · intro h
    unfold fixes at h
    split at h
    · next group rest hkind hargs =>
      cases hmentions : e.mentionsGroup group with
      | true => simp [hmentions] at h
      | false =>
        cases hfind : e.findReference group d.location with
        | none => simp [hmentions, hfind] at h
        | some found =>
          have hedit := by simpa [hmentions, hfind] using h
          exact ⟨group, rest, found.1, found.2, hkind, hargs, hmentions, hfind, hedit⟩
    · cases h
  · rintro ⟨group, rest, member, index, hkind, hargs, hmentions, hfind, hedit⟩
    simpa [fixes, hkind, hargs, hmentions, hfind] using hedit

/-- Where anything is offered, it is one edit of each sort. -/
theorem exists_of_fixes_ne_nil (h : d.fixes e ≠ []) :
    ∃ group rest member index, d.kind = .unknownGroup ∧ d.args = group :: rest ∧
      e.mentionsGroup group = false ∧ e.findReference group d.location = some (member, index) ∧
      d.fixes e = [.addGroup group, .removeMembership member index] := by
  obtain ⟨edit, hedit⟩ := List.exists_mem_of_ne_nil _ h
  obtain ⟨group, rest, member, index, hkind, hargs, hmentions, hfind, -⟩ := mem_fixes.1 hedit
  refine ⟨group, rest, member, index, hkind, hargs, hmentions, hfind, ?_⟩
  simp [fixes, hkind, hargs, hmentions, hfind]

/-- Fixes are offered for unknown groups only. -/
theorem fixes_of_kind_ne (h : d.kind ≠ .unknownGroup) (e : EnumType) : d.fixes e = [] := by
  rw [List.eq_nil_iff_forall_not_mem]
  intro edit hedit
  obtain ⟨-, -, -, -, hkind, -⟩ := mem_fixes.1 hedit
  exact h hkind

/-- A diagnostic about a reference has fixes unless a declaration mentions the group. -/
theorem fixes_eq_nil_iff {a : Attribute} {group : String} (ha : a ∈ e.references)
    (hargs : a.args = [.text group]) :
    (⟨.unknownGroup, a.location, [group]⟩ : Diagnostic).fixes e = [] ↔
      e.mentionsGroup group = true := by
  have hfits : EnumType.isReference group a.location a = true :=
    EnumType.isReference_iff.2 ⟨hargs, .inr rfl⟩
  cases hmentions : e.mentionsGroup group with
  | true => simp [fixes, hmentions]
  | false =>
    cases hfind : e.findReference group a.location with
    | none =>
      rw [EnumType.findReference_eq_none.1 hfind a ha] at hfits
      cases hfits
    | some found => simp [fixes, hmentions, hfind]

end Diagnostic

/-! ### Edited types -/

namespace Edit

variable {e : EnumType} {group : String} {project : Option Naming}

theorem isCovered_apply (edit : Edit) : (edit.apply e).IsCovered ↔ e.IsCovered := by
  cases edit <;> exact EnumType.isCovered_congr rfl rfl

theorem map_name_members_apply (edit : Edit) :
    (edit.apply e).members.map Member.name = e.members.map Member.name := by
  cases edit with
  | addGroup group => rfl
  | removeMembership member index => exact map_name_dropReference member index e.members

theorem mentionsGroup_addGroup (other : String) :
    ((addGroup group).apply e).mentionsGroup other = (e.mentionsGroup other || group == other) := by
  simp [apply, EnumType.mentionsGroup, Attribute.arg?, Bool.beq_eq_decide_eq]

/-- What is said about the members apart from their references stays. -/
theorem flatMap_analyze_dropReference (name : String) (index : Nat) (members : List Member) :
    ((dropReference name index members).flatMap fun m => m.analyze.diagnostics) =
      members.flatMap fun m => m.analyze.diagnostics := by
  induction members with
  | nil => rfl
  | cons m rest ih =>
    by_cases h : m.name = name
    · rw [dropReference, if_pos h]
      rfl
    · rw [dropReference, if_neg h, List.flatMap_cons, List.flatMap_cons, ih]

theorem ownDiagnostics_removeMembership (member : String) (index : Nat) :
    ((removeMembership member index).apply e).ownDiagnostics project =
      e.ownDiagnostics project := by
  simp only [EnumType.ownDiagnostics, apply, flatMap_analyze_dropReference]

end Edit

namespace GroupDeclaration

/-- Collecting goes through a list of declarations in two parts one after the other. -/
theorem collectFrom_append (owner : Option Location) (declared : List GroupDeclaration)
    (xs ys : List Attribute) :
    collectFrom owner declared (xs ++ ys) =
      collectFrom owner declared xs >>= fun declared => collectFrom owner declared ys := by
  induction xs generalizing declared with
  | nil => rfl
  | cons a rest ih =>
    rw [List.cons_append, collectFrom_cons, collectFrom_cons, bind_assoc]
    congr 1
    funext given
    cases given with
    | none => exact ih declared
    | some name =>
      by_cases h : declares declared name = true
      · simp only [h, if_true]
        exact ih declared
      · simp only [h, Bool.false_eq_true, if_false, bind_assoc, ih]

/-- One more declaration that is an identifier and nothing else raises nothing. -/
theorem diagnostics_collect_concat {group : String} (h : Identifier.isValid group = true)
    (attrs : List Attribute) (owner : Option Location) :
    (collect (attrs ++ [{ args := [.text group] }]) owner).diagnostics =
      (collect attrs owner).diagnostics := by
  have hlast : ∀ declared, (collectFrom owner declared [{ args := [.text group] }]).diagnostics =
      [] := by
    intro declared
    by_cases hd : declares declared group = true <;>
      simp [collectFrom, Check.identifier, Check.identifierArgument, Check.optionalIdentifier,
        Attribute.arg?, h, hd]
  rw [collect, collectFrom_append, Checked.diagnostics_bind, hlast, List.append_nil, collect]

end GroupDeclaration

/-! ### The analysis after an edit -/

/-- Whether a diagnostic reports the group as unknown. -/
def Diagnostic.reportsUnknown (group : String) (d : Diagnostic) : Bool :=
  d.kind == .unknownGroup && d.args == [group]

theorem Diagnostic.reportsUnknown_iff {group : String} {d : Diagnostic} :
    d.reportsUnknown group = true ↔ d.kind = .unknownGroup ∧ d.args = [group] := by
  simp [reportsUnknown]

namespace Edit

variable {e : EnumType} {group : String} {project : Option Naming}

theorem declares_addGroup (hvalid : Identifier.isValid group = true) (other : String) :
    GroupDeclaration.declares ((addGroup group).apply e).declared other =
      (GroupDeclaration.declares e.declared other || group == other) := by
  rw [Bool.eq_iff_iff, Bool.or_eq_true]
  simp only [EnumType.declares_declared, EnumType.mem_declaredNames_iff, mentionsGroup_addGroup,
    Bool.or_eq_true, beq_iff_eq, or_and_right]
  exact or_congr_right ⟨And.left, fun h => ⟨h, h ▸ hvalid⟩⟩

/-- Beside the new declaration the references to its group are in order, and the others are what
they were. -/
theorem referenceDiagnostics_addGroup (hvalid : Identifier.isValid group = true)
    (hmentions : e.mentionsGroup group = false) (a : Attribute) :
    ((addGroup group).apply e).referenceDiagnostics a =
      (e.referenceDiagnostics a).filter fun d => !d.reportsUnknown group := by
  unfold EnumType.referenceDiagnostics
  by_cases ha : a.args = [.text group]
  · -- reported before, declared now
    have hbefore := GroupDeclaration.diagnostics_resolveOne_of_not_declares ha
      (EnumType.declares_eq_false_of_not_mentionsGroup hmentions)
    have hafter : GroupDeclaration.declares ((addGroup group).apply e).declared group = true := by
      rw [declares_addGroup hvalid, beq_self_eq_true, Bool.or_true]
    rw [GroupDeclaration.diagnostics_resolveOne_of_declares ha hafter, hbefore]
    simp [Diagnostic.reportsUnknown]
  · -- for any other reference nothing has changed, and what is reported is not about the group
    have hsame : GroupDeclaration.resolveOne ((addGroup group).apply e).declared a =
        GroupDeclaration.resolveOne e.declared a := by
      refine GroupDeclaration.resolveOne_congr fun other hother => ?_
      have hne : group ≠ other := fun h => ha (h ▸ hother)
      rw [declares_addGroup hvalid, beq_eq_false_iff_ne.2 hne, Bool.or_false]
    rw [hsame, eq_comm, List.filter_eq_self]
    intro d hd
    rw [Bool.not_eq_true', ← Bool.not_eq_true, Diagnostic.reportsUnknown_iff]
    rintro ⟨hkind, hargs⟩
    obtain ⟨other, hother, -, rfl⟩ :=
      GroupDeclaration.mem_diagnostics_resolveOne_unknownGroup.1 ⟨hd, hkind⟩
    obtain ⟨rfl, -⟩ := List.cons.inj hargs
    exact ha hother

/-- **Declaring an identifier** that nothing mentions takes away the diagnostics that report the
group as unknown, and changes no others. -/
theorem diagnostics_addGroup (hcovered : e.IsCovered) (hvalid : Identifier.isValid group = true)
    (hmentions : e.mentionsGroup group = false) :
    (((addGroup group).apply e).analyze project).diagnostics =
      (e.analyze project).diagnostics.filter fun d => !d.reportsUnknown group := by
  have hown : ((addGroup group).apply e).ownDiagnostics project = e.ownDiagnostics project := by
    simp only [EnumType.ownDiagnostics, apply, GroupDeclaration.diagnostics_collect_concat hvalid]
  have hkeep : (e.ownDiagnostics project).filter (fun d => !d.reportsUnknown group) =
      e.ownDiagnostics project :=
    EnumType.filter_ownDiagnostics fun d hkind => by simp [Diagnostic.reportsUnknown, hkind]
  have hreferences : ((addGroup group).apply e).references = e.references := rfl
  rw [EnumType.diagnostics_analyze_of_isCovered hcovered,
    EnumType.diagnostics_analyze_of_isCovered ((isCovered_apply _).2 hcovered), hown,
    List.filter_append, hkeep, List.filter_flatMap, hreferences,
    funext (referenceDiagnostics_addGroup hvalid hmentions)]

/-- Nothing is reported about references that do not fit what the first one that fits is reported
for. -/
theorem not_mem_referenceDiagnostics {location : Option Location} {a b : Attribute}
    (ha : EnumType.isReference group location a = true)
    (hb : EnumType.isReference group location b = false) :
    ⟨.unknownGroup, a.location, [group]⟩ ∉ e.referenceDiagnostics b := by
  intro h
  obtain ⟨other, hargs, -, heq⟩ :=
    GroupDeclaration.mem_diagnostics_resolveOne_unknownGroup.1 ⟨h, rfl⟩
  obtain ⟨hlocation, rfl⟩ : a.location = b.location ∧ group = other := by simpa using heq
  have hfits : EnumType.isReference group location b = true :=
    EnumType.isReference_iff.2 ⟨hargs, hlocation ▸ (EnumType.isReference_iff.1 ha).2⟩
  rw [hfits] at hb
  cases hb

/-- Dropping the first reference that fits takes away the first of the diagnostics that are like
the one about it. -/
theorem diagnostics_removeMembership_eq_erase (project : Option Naming)
    {location : Option Location} {member : String} {index : Nat} (hcovered : e.IsCovered)
    (hnames : (e.members.map Member.name).Nodup) (hmentions : e.mentionsGroup group = false)
    (hfind : e.findReference group location = some (member, index)) :
    ∃ a, e.references.find? (EnumType.isReference group location) = some a ∧
      ⟨.unknownGroup, a.location, [group]⟩ ∈ (e.analyze project).diagnostics ∧
      (((removeMembership member index).apply e).analyze project).diagnostics =
        (e.analyze project).diagnostics.erase ⟨.unknownGroup, a.location, [group]⟩ := by
  obtain ⟨before, a, after, hreferences, hbefore, ha, hdrop⟩ :=
    EnumType.exists_of_findReference hnames hfind
  have hunknown := GroupDeclaration.diagnostics_resolveOne_of_not_declares
    (EnumType.isReference_iff.1 ha).1
    (EnumType.declares_eq_false_of_not_mentionsGroup hmentions)
  have hdiagnostics : (e.analyze project).diagnostics =
      e.ownDiagnostics project ++ (before.flatMap e.referenceDiagnostics ++
        ⟨.unknownGroup, a.location, [group]⟩ :: after.flatMap e.referenceDiagnostics) := by
    rw [EnumType.diagnostics_analyze_of_isCovered hcovered, hreferences, List.flatMap_append,
      List.flatMap_cons, EnumType.referenceDiagnostics, hunknown, List.singleton_append]
  refine ⟨a, ?_, ?_, ?_⟩
  · rw [List.find?_eq_some_iff_append]
    exact ⟨ha, before, after, hreferences, fun b hb => by rw [hbefore b hb]; rfl⟩
  · simp [hdiagnostics]
  · -- nothing before the dropped reference is reported like it
    have hown : ⟨.unknownGroup, a.location, [group]⟩ ∉ e.ownDiagnostics project :=
      fun h => EnumType.kind_ne_unknownGroup_of_mem_own h rfl
    have hfirst :
        ⟨.unknownGroup, a.location, [group]⟩ ∉ before.flatMap e.referenceDiagnostics := by
      rw [List.mem_flatMap]
      rintro ⟨b, hb, h⟩
      exact not_mem_referenceDiagnostics ha (hbefore b hb) h
    have hdeclared : ((removeMembership member index).apply e).referenceDiagnostics =
        e.referenceDiagnostics := rfl
    rw [EnumType.diagnostics_analyze_of_isCovered ((isCovered_apply _).2 hcovered),
      ownDiagnostics_removeMembership, hdrop, hdeclared, List.flatMap_append, hdiagnostics,
      List.erase_append_right _ hown, List.erase_append_right _ hfirst, List.erase_cons_head]

/-- **Dropping a reference** that is looked for takes away the one diagnostic about it.  It is the
first that fits. -/
theorem diagnostics_removeMembership (project : Option Naming) {location : Option Location}
    {member : String} {index : Nat} (hcovered : e.IsCovered)
    (hnames : (e.members.map Member.name).Nodup) (hmentions : e.mentionsGroup group = false)
    (hfind : e.findReference group location = some (member, index)) :
    ∃ a before after, e.references.find? (EnumType.isReference group location) = some a ∧
      (e.analyze project).diagnostics =
        before ++ ⟨.unknownGroup, a.location, [group]⟩ :: after ∧
      (((removeMembership member index).apply e).analyze project).diagnostics =
        before ++ after := by
  obtain ⟨a, ha, hmem, hafter⟩ :=
    diagnostics_removeMembership_eq_erase project hcovered hnames hmentions hfind
  obtain ⟨before, after, -, hbefore, herase⟩ := List.exists_erase_eq hmem
  exact ⟨a, before, after, ha, hbefore, hafter.trans herase⟩

/-- An edit resolves a diagnostic: on the edited type it is raised less often, and nothing is
raised that was not raised before. -/
def Resolves (edit : Edit) (e : EnumType) (project : Option Naming) (d : Diagnostic) : Prop :=
  ((edit.apply e).analyze project).diagnostics.count d < (e.analyze project).diagnostics.count d ∧
    ∀ d' ∈ ((edit.apply e).analyze project).diagnostics, d' ∈ (e.analyze project).diagnostics

instance (edit : Edit) (e : EnumType) (project : Option Naming) (d : Diagnostic) :
    Decidable (edit.Resolves e project d) :=
  inferInstanceAs (Decidable (_ ∧ _))

/-- A diagnostic is resolved where it is taken away once and nothing else is changed. -/
theorem resolves_of_split {edit : Edit} {d : Diagnostic} {before after : List Diagnostic}
    (hbefore : (e.analyze project).diagnostics = before ++ d :: after)
    (hafter : ((edit.apply e).analyze project).diagnostics = before ++ after) :
    edit.Resolves e project d := by
  rw [Resolves, hbefore, hafter]
  constructor
  · simp [List.count_append]
  · intro d' hd'
    simp only [List.mem_append, List.mem_cons] at hd' ⊢
    exact hd'.imp_right .inr

theorem resolves_addGroup {d : Diagnostic} (hd : d ∈ (e.analyze project).diagnostics)
    (hreports : d.reportsUnknown group = true) (hcovered : e.IsCovered)
    (hvalid : Identifier.isValid group = true) (hmentions : e.mentionsGroup group = false) :
    (addGroup group).Resolves e project d := by
  rw [Resolves, diagnostics_addGroup hcovered hvalid hmentions]
  refine ⟨?_, fun d' hd' => (List.mem_filter.1 hd').1⟩
  rw [List.count_eq_zero_of_not_mem (by simp [hreports])]
  exact List.count_pos_iff.2 hd

end Edit

/-- **What the offered fixes do.**  Declaring the group resolves the diagnostic if the group is an
identifier.  Dropping the reference takes away one diagnostic about the group and leaves all the
others; it is this one if the diagnostic has a place or the first reference to the group has
none. -/
theorem Diagnostic.resolves_of_mem_fixes {d : Diagnostic} {e : EnumType} {project : Option Naming}
    {edit : Edit} (hnames : (e.members.map Member.name).Nodup)
    (hd : d ∈ (e.analyze project).diagnostics) (hedit : edit ∈ d.fixes e) :
    (∀ group, edit = .addGroup group → Identifier.isValid group = true →
      edit.Resolves e project d) ∧
    (∀ member index, edit = .removeMembership member index →
      ∃ group a before after, d.args = [group] ∧
        e.references.find? (EnumType.isReference group d.location) = some a ∧
        (e.analyze project).diagnostics = before ++ { d with location := a.location } :: after ∧
        ((edit.apply e).analyze project).diagnostics = before ++ after ∧
        (d.location.isSome ∨ a.location = none → edit.Resolves e project d)) := by
  obtain ⟨group, rest, member, index, hkind, hargs, hmentions, hfind, hedit⟩ := mem_fixes.1 hedit
  obtain ⟨hcovered, reported, -, _, -, -, hreported⟩ :=
    EnumType.mem_diagnostics_unknownGroup.1 ⟨hd, hkind⟩
  obtain rfl : rest = [] := by
    rw [hreported] at hargs
    exact (List.cons.inj hargs).2.symm
  constructor
  · rintro g rfl hvalid
    obtain rfl : g = group := by simpa using hedit
    exact Edit.resolves_addGroup hd (reportsUnknown_iff.2 ⟨hkind, hargs⟩) hcovered hvalid hmentions
  · rintro m i rfl
    obtain ⟨rfl, rfl⟩ : m = member ∧ i = index := by simpa using hedit
    obtain ⟨a, before, after, ha, hbefore, hafter⟩ :=
      Edit.diagnostics_removeMembership project hcovered hnames hmentions hfind
    have hdropped : (⟨.unknownGroup, a.location, [group]⟩ : Diagnostic) =
        { d with location := a.location } := by rw [← hkind, ← hargs]
    rw [hdropped] at hbefore
    refine ⟨group, a, before, after, hargs, ha, hbefore, hafter, fun hplace => ?_⟩
    -- the reference stands at the place of the diagnostic, so the one taken away is this one
    have hlocation : a.location = d.location := by
      rcases (EnumType.isReference_iff.1 (List.find?_some ha)).2 with hnone | hsame
      · simpa [hnone] using hplace
      · exact hsame
    rw [hlocation] at hbefore
    exact Edit.resolves_of_split hbefore hafter

/-- Two references to one group, one with a place and one without: both fixes of the diagnostic
with the place resolve it. -/
theorem Diagnostic.resolves_of_mem_fixes_placed :
    let e : EnumType :=
      { name := "E", fullName := "E", accessibility := .public
        members :=
          [{ name := "A", groups := [{ args := [.text "G"] }] },
           { name := "B", groups := [{ args := [.text "G"], location := some ⟨"a.cs", 2, 5⟩ }] }] }
    let d : Diagnostic := ⟨.unknownGroup, some ⟨"a.cs", 2, 5⟩, ["G"]⟩
    d.fixes e = [.addGroup "G", .removeMembership "B" 0] ∧
      (Edit.addGroup "G").Resolves e none d ∧ (Edit.removeMembership "B" 0).Resolves e none d := by
  intro e d
  have hfixes : d.fixes e = [.addGroup "G", .removeMembership "B" 0] := by decide
  have hnames : (e.members.map Member.name).Nodup := by decide
  have hd : d ∈ (e.analyze none).diagnostics := by decide
  have hadd : .addGroup "G" ∈ d.fixes e := by simp [hfixes]
  have hremove : .removeMembership "B" 0 ∈ d.fixes e := by simp [hfixes]
  obtain ⟨_, _, _, _, -, -, -, -, hplaced⟩ := (resolves_of_mem_fixes hnames hd hremove).2 "B" 0 rfl
  exact ⟨hfixes, (resolves_of_mem_fixes hnames hd hadd).1 "G" rfl (by decide), hplaced (.inl rfl)⟩

/-- A diagnostic without a place is not resolved by dropping the first reference to the group if
that one has a place: it is the other diagnostic that goes.  Nor is one resolved by declaring what
is no identifier. -/
theorem Diagnostic.not_resolves_of_mem_fixes :
    let e : EnumType :=
      { name := "E", fullName := "E", accessibility := .public
        members :=
          [{ name := "A", groups := [{ args := [.text "G"], location := some ⟨"a.cs", 1, 5⟩ }] },
           { name := "B", groups := [{ args := [.text "G"] }, { args := [.text "a b"] }] }] }
    let d : Diagnostic := ⟨.unknownGroup, none, ["G"]⟩
    let d' : Diagnostic := ⟨.unknownGroup, none, ["a b"]⟩
    (e.members.map Member.name).Nodup ∧
      (d ∈ (e.analyze none).diagnostics ∧ .removeMembership "A" 0 ∈ d.fixes e ∧
        ¬ (Edit.removeMembership "A" 0).Resolves e none d) ∧
      (d' ∈ (e.analyze none).diagnostics ∧ .addGroup "a b" ∈ d'.fixes e ∧
        ¬ (Edit.addGroup "a b").Resolves e none d') := by
  decide

end EnumAccessors

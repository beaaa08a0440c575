import EnumAccessors.Proofs.Fixes

/-!
# Fixing until nothing is offered

Fixes are applied one after the other, each offered for a diagnostic of the type as it is by then
(`EnumType.FixStep`, `EnumType.FixRun`).

A reference is *pending* as long as no declaration mentions its group (`EnumType.isPending`).  Each
step leaves fewer pending references (`EnumType.FixStep.pending_lt`), also one that declares what
is no identifier: it takes away no diagnostic, but the group is mentioned from then on and nothing
more is offered for it.  A run is no longer than the unknown groups reported at its start, and
where nothing is offered any more, what is left are groups with a declaration that is no
identifier (`EnumType.FixRun.length_le_unknown`).
-/

namespace EnumAccessors

namespace EnumType

/-- Whether a reference names just a group that no declaration mentions. -/
def isPending (e : EnumType) (a : Attribute) : Bool :=
  match a.args with
  | [.text group] => !e.mentionsGroup group
  | _ => false

/-- The number of pending references. -/
def pending (e : EnumType) : Nat := e.references.countP e.isPending

/-- One of the fixes is applied that are offered for a diagnostic of the type. -/
inductive FixStep (project : Option Naming) : EnumType → EnumType → Prop where
  | apply {e : EnumType} {d : Diagnostic} {edit : Edit}
    (hd : d ∈ (e.analyze project).diagnostics) (hedit : edit ∈ d.fixes e) :
    FixStep project e (edit.apply e)

/-- Fixes are applied one after the other, each to the outcome of the one before. -/
inductive FixRun (project : Option Naming) : EnumType → Nat → EnumType → Prop where
  | refl (e : EnumType) : FixRun project e 0 e
  | step {e e' e'' : EnumType} {n : Nat} (h : FixStep project e e')
    (hrun : FixRun project e' n e'') : FixRun project e (n + 1) e''

variable {e e' : EnumType} {project : Option Naming} {group : String} {a : Attribute}

theorem isPending_iff :
    e.isPending a = true ↔ ∃ group, a.args = [.text group] ∧ e.mentionsGroup group = false := by
  unfold isPending
  split
  · next group ha => simp [ha]
  · next ha => simpa using fun group h => absurd h (ha group)

/-- A pending reference is reported as unknown. -/
theorem referenceDiagnostics_of_isPending (h : e.isPending a = true) :
    ∃ group, a.args = [.text group] ∧ e.mentionsGroup group = false ∧
      e.referenceDiagnostics a = [⟨.unknownGroup, a.location, [group]⟩] := by
  obtain ⟨group, hargs, hmentions⟩ := isPending_iff.1 h
  exact ⟨group, hargs, hmentions, GroupDeclaration.diagnostics_resolveOne_of_not_declares hargs
    (declares_eq_false_of_not_mentionsGroup hmentions)⟩

/-! ### One step -/

theorem isPending_of_isPending_addGroup
    (h : ((Edit.addGroup group).apply e).isPending a = true) : e.isPending a = true := by
  obtain ⟨other, hother, hmentions⟩ := isPending_iff.1 h
  rw [Edit.mentionsGroup_addGroup, Bool.or_eq_false_iff] at hmentions
  exact isPending_iff.2 ⟨other, hother, hmentions.1⟩

/-- A fix leaves fewer pending references: the reference that it was offered for is mended. -/
theorem pending_apply_lt {d : Diagnostic} {edit : Edit} (hnames : (e.members.map Member.name).Nodup)
    (hedit : edit ∈ d.fixes e) : (edit.apply e).pending < e.pending := by
  obtain ⟨group, -, member, index, -, -, hmentions, hfind, hedit⟩ := Diagnostic.mem_fixes.1 hedit
  obtain ⟨before, a, after, hreferences, -, ha, hdrop⟩ := exists_of_findReference hnames hfind
  have hargs := (isReference_iff.1 ha).1
  have hpending : e.isPending a = true := isPending_iff.2 ⟨group, hargs, hmentions⟩
  rcases hedit with rfl | rfl
  · -- all references to the group are mended, and none is new
    have hmended : ((Edit.addGroup group).apply e).isPending a = false := by
      simp [isPending, hargs, Edit.mentionsGroup_addGroup]
    have hreferences' : ((Edit.addGroup group).apply e).references = before ++ a :: after :=
      hreferences
    have hle : ∀ l : List Attribute,
        l.countP ((Edit.addGroup group).apply e).isPending ≤ l.countP e.isPending :=
      fun l => List.countP_mono_left fun _ _ => isPending_of_isPending_addGroup
    rw [pending, pending, hreferences, hreferences', List.countP_append, List.countP_append,
      List.countP_cons_of_pos hpending, List.countP_cons_of_neg (by simp [hmended])]
    exact Nat.lt_succ_of_le (Nat.add_le_add (hle before) (hle after))
  · -- the others stay as they are
    have hsame : ((Edit.removeMembership member index).apply e).isPending = e.isPending := rfl
    rw [pending, pending, hreferences, hdrop, hsame, List.countP_append, List.countP_append,
      List.countP_cons_of_pos hpending]
    exact Nat.lt_succ_self _

theorem FixStep.pending_lt (h : FixStep project e e')
    (hnames : (e.members.map Member.name).Nodup) :
    e'.pending < e.pending ∧ (e'.members.map Member.name).Nodup := by
  cases h with
  | apply hd hedit =>
    rw [Edit.map_name_members_apply]
    exact ⟨pending_apply_lt hnames hedit, hnames⟩

/-- Fixes are offered on covered types only. -/
theorem FixStep.isCovered (h : FixStep project e e') : e.IsCovered := by
  cases h with
  | apply hd hedit =>
    obtain ⟨-, -, -, -, hkind, -⟩ := Diagnostic.mem_fixes.1 hedit
    exact (mem_diagnostics_unknownGroup.1 ⟨hd, hkind⟩).1

/-! ### Whole runs -/

theorem FixRun.length_add_pending_le {n : Nat} (h : FixRun project e n e')
    (hnames : (e.members.map Member.name).Nodup) : n + e'.pending ≤ e.pending := by
  induction h with
  | refl e => exact Nat.le_of_eq (Nat.zero_add _)
  | step h _ ih =>
    obtain ⟨hlt, hnames'⟩ := h.pending_lt hnames
    have hle := ih hnames'
    omega

/-- Each pending reference of a covered type is reported as unknown. -/
theorem pending_le_countP (project : Option Naming) (h : e.IsCovered) :
    e.pending ≤ (e.analyze project).diagnostics.countP fun d => d.kind == .unknownGroup := by
  have hle : ∀ references : List Attribute, references.countP e.isPending ≤
      (references.flatMap e.referenceDiagnostics).countP fun d => d.kind == .unknownGroup := by
    intro references
    induction references with
    | nil => exact Nat.le_refl _
    | cons a rest ih =>
      rw [List.flatMap_cons, List.countP_append]
      by_cases ha : e.isPending a = true
      · obtain ⟨group, -, -, hunknown⟩ := referenceDiagnostics_of_isPending ha
        rw [List.countP_cons_of_pos ha, hunknown, List.countP_singleton]
        simp only [beq_self_eq_true, if_true]
        omega
      · rw [List.countP_cons_of_neg ha]
        exact Nat.le_add_left_of_le ih
  rw [diagnostics_analyze_of_isCovered h, List.countP_append]
  exact Nat.le_add_left_of_le (hle e.references)

/-- Where no fix is offered, an unknown group has a declaration that is no identifier. -/
theorem not_isValid_of_fixes_eq_nil {d : Diagnostic} (hd : d ∈ (e.analyze project).diagnostics)
    (hkind : d.kind = .unknownGroup) (hfixes : d.fixes e = []) :
    ∃ group, d.args = [group] ∧ (∃ a ∈ e.groups, a.arg? 0 = some (.text group)) ∧
      Identifier.isValid group = false := by
  obtain ⟨-, a, ha, group, hargs, hdeclared, rfl⟩ :=
    mem_diagnostics_unknownGroup.1 ⟨hd, hkind⟩
  have hmentions := (Diagnostic.fixes_eq_nil_iff ha hargs).1 hfixes
  rw [mem_declaredNames_iff, not_and, Bool.not_eq_true] at hdeclared
  exact ⟨group, rfl, mentionsGroup_iff.1 hmentions, hdeclared hmentions⟩

/-- **Fixing ends.**  A run takes at most as many steps as unknown groups are reported at its
start, and once nothing is offered, each unknown group that is left has a declaration that is no
identifier. -/
theorem FixRun.length_le_unknown {n : Nat} (h : FixRun project e n e')
    (hnames : (e.members.map Member.name).Nodup) :
    n ≤ ((e.analyze project).diagnostics.countP fun d => d.kind == .unknownGroup) ∧
    ((∀ d ∈ (e'.analyze project).diagnostics, d.fixes e' = []) →
      ∀ d ∈ (e'.analyze project).diagnostics, d.kind = .unknownGroup →
        ∃ group, d.args = [group] ∧ (∃ a ∈ e'.groups, a.arg? 0 = some (.text group)) ∧
          Identifier.isValid group = false) := by
  have hpending := h.length_add_pending_le hnames
  refine ⟨?_, fun hfixes d hd hkind => not_isValid_of_fixes_eq_nil hd hkind (hfixes d hd)⟩
  cases h with
  | refl => exact Nat.zero_le _
  | step hstep _ =>
    have hle := pending_le_countP project hstep.isCovered
    omega

/-- Two fixes on a type with two unknown groups, one of which cannot be declared: the group that is
no identifier is reported to the end, and nothing is offered for it. -/
theorem FixRun.length_le_unknown_mixed :
    let e : EnumType :=
      { name := "E", fullName := "E", accessibility := .public
        members :=
          [{ name := "A", groups := [{ args := [.text "G"] }, { args := [.text "a b"] }] }] }
    let e' := (Edit.removeMembership "A" 0).apply ((Edit.addGroup "a b").apply e)
    FixRun none e 2 e' ∧
      2 ≤ ((e.analyze none).diagnostics.countP fun d => d.kind == .unknownGroup) ∧
      (∀ d ∈ (e'.analyze none).diagnostics, d.fixes e' = []) ∧
      ∀ d ∈ (e'.analyze none).diagnostics, d.kind = .unknownGroup →
        ∃ group, d.args = [group] ∧ (∃ a ∈ e'.groups, a.arg? 0 = some (.text group)) ∧
          Identifier.isValid group = false := by
  intro e e'
  have hfirst : FixStep none e ((Edit.addGroup "a b").apply e) :=
    .apply (d := ⟨.unknownGroup, none, ["a b"]⟩) (by decide) (by decide)
  have hsecond : FixStep none ((Edit.addGroup "a b").apply e) e' :=
    .apply (d := ⟨.unknownGroup, none, ["G"]⟩) (by decide) (by decide)
  have hrun : FixRun none e 2 e' := .step hfirst (.step hsecond (.refl e'))
  have hnames : (e.members.map Member.name).Nodup := by decide
  have hfixes : ∀ d ∈ (e'.analyze none).diagnostics, d.fixes e' = [] := by decide
  exact ⟨hrun, (hrun.length_le_unknown hnames).1, hfixes,
    (hrun.length_le_unknown hnames).2 hfixes⟩

end EnumType

end EnumAccessors

import EnumAccessors.Edit
import EnumAccessors.Proofs.Description
import EnumAccessors.Proofs.Raised

/-!
# References to groups

The diagnostics of a type fall into two parts: those about the type, its members and its
declarations (`EnumType.ownDiagnostics`), and behind them those about the references of the
members, one by one (`EnumType.diagnostics_analyze_of_isCovered`).  An unknown group is reported
only in the second part.

* `EnumType.mem_diagnostics_unknownGroup`: which references are reported as unknown.
* `EnumType.exists_of_findReference`: the reference that a fix looks for is the first that fits,
  and dropping it leaves all the others.
-/

namespace EnumAccessors

/-! ### One reference -/

namespace GroupDeclaration

variable {declared declared' : List GroupDeclaration} {a : Attribute} {group : String}

theorem diagnostics_resolveOne_of_declares (ha : a.args = [.text group])
    (h : declares declared group = true) : (resolveOne declared a).diagnostics = [] := by
  simp [resolveOne, ha, h]

theorem diagnostics_resolveOne_of_not_declares (ha : a.args = [.text group])
    (h : declares declared group = false) :
    (resolveOne declared a).diagnostics = [⟨.unknownGroup, a.location, [group]⟩] := by
  simp [resolveOne, ha, h]

theorem value_resolveOne_of_not_declares (ha : a.args = [.text group])
    (h : declares declared group = false) : (resolveOne declared a).value = none := by
  simp [resolveOne, ha, h]

/-- Only a reference that names just one group is reported as unknown. -/
theorem kind_resolveOne_of_forall_ne (ha : ∀ group, a.args ≠ [.text group]) {d : Diagnostic}
    (hd : d ∈ (resolveOne declared a).diagnostics) : d.kind ≠ .unknownGroup := by
  unfold resolveOne at hd
  split at hd
  · next h => exact absurd h (ha _)
  · rw [List.mem_singleton.1 hd]
    simp
  · rw [List.mem_singleton.1 hd]
    simp

theorem mem_diagnostics_resolveOne_unknownGroup {d : Diagnostic} :
    d ∈ (resolveOne declared a).diagnostics ∧ d.kind = .unknownGroup ↔
      ∃ group, a.args = [.text group] ∧ declares declared group = false ∧
        d = ⟨.unknownGroup, a.location, [group]⟩ := by
  constructor
  · rintro ⟨hd, hkind⟩
    by_cases ha : ∃ group, a.args = [.text group]
    · obtain ⟨group, ha⟩ := ha
      cases h : declares declared group with
      | true =>
        rw [diagnostics_resolveOne_of_declares ha h] at hd
        cases hd
      | false =>
        rw [diagnostics_resolveOne_of_not_declares ha h, List.mem_singleton] at hd
        exact ⟨group, ha, h, hd⟩
    · exact absurd hkind (kind_resolveOne_of_forall_ne (not_exists.1 ha) hd)
  · rintro ⟨group, ha, h, rfl⟩
    rw [diagnostics_resolveOne_of_not_declares ha h]
    exact ⟨List.mem_singleton_self _, rfl⟩

/-- All that matters for a reference is whether the group is declared that it names. -/
theorem resolveOne_congr
    (h : ∀ group, a.args = [.text group] → declares declared group = declares declared' group) :
    resolveOne declared a = resolveOne declared' a := by
  unfold resolveOne
  split
  · next name ha => rw [h name ha]
  · rfl
  · rfl

end GroupDeclaration

namespace EnumType

/-! ### All references -/

/-- The references of all members. -/
def references (e : EnumType) : List Attribute := e.members.flatMap Member.groups

/-- The diagnostics about the type itself, its members apart from their references, and its
declarations. -/
def ownDiagnostics (e : EnumType) (project : Option Naming) : List Diagnostic :=
  (Check.identifier e.accessorPrefix none .accessorPrefix).diagnostics ++
  (Check.typeNaming e.naming project).diagnostics ++
  (e.members.flatMap fun m => m.analyze.diagnostics) ++
  (GroupDeclaration.collect e.groups none).diagnostics

/-- The diagnostics about one reference on the type. -/
def referenceDiagnostics (e : EnumType) (a : Attribute) : List Diagnostic :=
  (GroupDeclaration.resolveOne e.declared a).diagnostics

variable {e : EnumType} {project : Option Naming} {d : Diagnostic}

theorem diagnostics_analyze_of_isCovered (h : e.IsCovered) :
    (e.analyze project).diagnostics =
      e.ownDiagnostics project ++ e.references.flatMap e.referenceDiagnostics := by
  rw [analyze_of_isCovered h, Checked.diagnostics_map, diagnostics_describe, ownDiagnostics,
    references, List.flatMap_assoc]
  rfl

theorem kind_ne_unknownGroup_of_mem_own (h : d ∈ e.ownDiagnostics project) :
    d.kind ≠ .unknownGroup := by
  let p : Diagnostic → Prop := fun d => d.kind ≠ .unknownGroup
  change p d
  simp only [ownDiagnostics, List.mem_append, List.mem_flatMap] at h
  rcases h with ((h | h) | ⟨m, -, h⟩) | h
  · exact Check.raisesOnly_identifier (.kind_ne (by decide)) _ _ d h
  · exact Check.raisesOnly_typeNaming (by simp [p]) (by simp [p]) (by simp [p]) (by simp [p]) _ _
      d h
  · exact m.raisesOnly_analyze (by simp) (.kind_ne (by decide)) (.kind_ne (by decide)) d h
  · exact GroupDeclaration.raisesOnly_collectFrom (.kind_ne (by decide)) (.kind_ne (by decide))
      none [] e.groups d h

/-- Where nothing but unknown groups is filtered out, only diagnostics about references are. -/
theorem filter_ownDiagnostics {p : Diagnostic → Bool}
    (h : ∀ d : Diagnostic, d.kind ≠ .unknownGroup → p d = true) :
    (e.ownDiagnostics project).filter p = e.ownDiagnostics project := by
  rw [List.filter_eq_self]
  exact fun d hd => h d (kind_ne_unknownGroup_of_mem_own hd)

/-- A type that gets no accessors has at most a wrong exclusion reported. -/
theorem kind_of_not_isCovered (hcovered : ¬ e.IsCovered)
    (h : d ∈ (e.analyze project).diagnostics) : d.kind = .enumExclusionType := by
  by_cases heligible : e.accessibility.isEligible = true
  · have hexcl : ¬ Exclusion.IsLifted e.exclude := fun hexcl =>
      hcovered ⟨Accessibility.isEligible_iff.1 heligible, hexcl⟩
    simp only [analyze, heligible, if_true, Checked.diagnostics_bind, Check.value_exclusion, hexcl,
      decide_false, Bool.not_false, Checked.diagnostics_pure, List.append_nil] at h
    exact Check.raisesOnly_exclusion (p := fun d => d.kind = .enumExclusionType) (by simp) _ d h
  · simp [analyze, heligible] at h

theorem declares_declared {group : String} :
    GroupDeclaration.declares e.declared group = true ↔
      group ∈ GroupDeclaration.declaredNames e.groups := by
  rw [GroupDeclaration.declares_iff, map_name_declared]

/-- An unknown group is reported for each reference of a covered type whose only argument is a
text that is not the name of a declared group. -/
theorem mem_diagnostics_unknownGroup :
    d ∈ (e.analyze project).diagnostics ∧ d.kind = .unknownGroup ↔
      e.IsCovered ∧ ∃ a ∈ e.references, ∃ group, a.args = [.text group] ∧
        group ∉ GroupDeclaration.declaredNames e.groups ∧
        d = ⟨.unknownGroup, a.location, [group]⟩ := by
  by_cases hcovered : e.IsCovered
  · rw [diagnostics_analyze_of_isCovered hcovered, List.mem_append, List.mem_flatMap]
    simp only [← declares_declared, Bool.not_eq_true]
    constructor
    · rintro ⟨h | ⟨a, ha, h⟩, hkind⟩
      · exact absurd hkind (kind_ne_unknownGroup_of_mem_own h)
      · exact ⟨hcovered, a, ha,
          GroupDeclaration.mem_diagnostics_resolveOne_unknownGroup.1 ⟨h, hkind⟩⟩
    · rintro ⟨-, a, ha, h⟩
      obtain ⟨h, hkind⟩ := GroupDeclaration.mem_diagnostics_resolveOne_unknownGroup.2 h
      exact ⟨.inr ⟨a, ha, h⟩, hkind⟩
  · constructor
    · rintro ⟨h, hkind⟩
      rw [kind_of_not_isCovered hcovered h] at hkind
      cases hkind
    · exact fun h => absurd h.1 hcovered

end EnumType

/-! ### Members with other references -/

/-- A member is what another one was but for its references, which are related. -/
structure Member.SameButReferences (r : List Attribute → List Attribute → Prop)
    (before after : Member) : Prop where
  others : { after with groups := before.groups } = before
  references : r before.groups after.groups

/-! ### Finding and dropping a reference -/

/-- Elements that give nothing may be left out. -/
theorem flatMap_filter_of_forall {α β : Type} {p : α → Bool} {f : α → List β} {xs : List α}
    (h : ∀ x ∈ xs, p x = false → f x = []) : (xs.filter p).flatMap f = xs.flatMap f := by
  induction xs with
  | nil => rfl
  | cons x rest ih =>
    rw [List.forall_mem_cons] at h
    cases hx : p x with
    | true => rw [List.filter_cons_of_pos hx, List.flatMap_cons, List.flatMap_cons, ih h.2]
    | false =>
      rw [List.filter_cons_of_neg (by simp [hx]), List.flatMap_cons, h.1 hx, List.nil_append,
        ih h.2]

/-- The first element of its sort, what stands before and behind it, and what is left without
it. -/
theorem exists_of_findIdx? {α : Type} {p : α → Bool} {xs : List α} {i : Nat}
    (h : xs.findIdx? p = some i) :
    ∃ before a after, xs = before ++ a :: after ∧ (∀ b ∈ before, p b = false) ∧ p a = true ∧
      xs.eraseIdx i = before ++ after := by
  induction xs generalizing i with
  | nil => cases h
  | cons x xs ih =>
    rw [List.findIdx?_cons] at h
    by_cases hx : p x = true
    · rw [if_pos hx, Option.some.injEq] at h
      exact ⟨[], x, xs, rfl, List.forall_mem_nil _, hx, by rw [← h]; rfl⟩
    · rw [if_neg hx, Option.map_eq_some_iff] at h
      obtain ⟨j, hj, rfl⟩ := h
      obtain ⟨before, a, after, rfl, hbefore, ha, herase⟩ := ih hj
      refine ⟨x :: before, a, after, rfl, ?_, ha, ?_⟩
      · exact List.forall_mem_cons.2 ⟨by simpa using hx, hbefore⟩
      · rw [List.eraseIdx_cons_succ, herase, List.cons_append]

/-- Among members of distinct names the first reference of its sort is found where it stands, and
dropping it leaves the members as they are apart from that reference. -/
theorem Edit.exists_of_dropReference {p : Attribute → Bool} {members : List Member}
    {name : String} {index : Nat} (hnames : (members.map Member.name).Nodup)
    (h : (members.findSome? fun m => (m.groups.findIdx? p).map fun i => (m.name, i)) =
      some (name, index)) :
    ∃ before m after firsts a lasts, members = before ++ m :: after ∧
      m.groups = firsts ++ a :: lasts ∧
      (∀ b ∈ before.flatMap Member.groups ++ firsts, p b = false) ∧ p a = true ∧
      dropReference name index members =
        before ++ { m with groups := firsts ++ lasts } :: after := by
  induction members with
  | nil => cases h
  | cons m rest ih =>
    rw [List.map_cons, List.nodup_cons] at hnames
    rw [List.findSome?_cons] at h
    cases hidx : m.groups.findIdx? p with
    | some i =>
      simp only [hidx, Option.map_some, Option.some.injEq, Prod.mk.injEq] at h
      obtain ⟨rfl, rfl⟩ := h
      obtain ⟨firsts, a, lasts, hgroups, hfirsts, ha, herase⟩ := exists_of_findIdx? hidx
      refine ⟨[], m, rest, firsts, a, lasts, rfl, hgroups, hfirsts, ha, ?_⟩
      rw [dropReference, if_pos rfl, herase, List.nil_append]
    | none =>
      simp only [hidx, Option.map_none] at h
      -- the member found stands further behind, so it has another name
      obtain ⟨m', hm', hfound⟩ := List.exists_of_findSome?_eq_some h
      obtain ⟨i, -, hi⟩ := Option.map_eq_some_iff.1 hfound
      obtain ⟨rfl, rfl⟩ := Prod.mk.inj hi
      have hne : m.name ≠ m'.name := fun heq => hnames.1 (heq ▸ List.mem_map_of_mem hm')
      obtain ⟨before, n, after, firsts, a, lasts, rfl, hgroups, hbefore, ha, hdrop⟩ := ih hnames.2 h
      refine ⟨m :: before, n, after, firsts, a, lasts, rfl, hgroups, ?_, ha, ?_⟩
      · rw [List.flatMap_cons, List.append_assoc, List.forall_mem_append]
        exact ⟨fun b hb => by simpa using List.findIdx?_eq_none_iff.1 hidx b hb, hbefore⟩
      · rw [dropReference, if_neg hne, hdrop, List.cons_append]

/-- The references of all members without the one that is dropped. -/
theorem Edit.flatMap_groups_dropReference {p : Attribute → Bool} {members : List Member}
    {name : String} {index : Nat} (hnames : (members.map Member.name).Nodup)
    (h : (members.findSome? fun m => (m.groups.findIdx? p).map fun i => (m.name, i)) =
      some (name, index)) :
    ∃ before a after, members.flatMap Member.groups = before ++ a :: after ∧
      (∀ b ∈ before, p b = false) ∧ p a = true ∧
      (dropReference name index members).flatMap Member.groups = before ++ after := by
  obtain ⟨before, m, after, firsts, a, lasts, hmembers, hgroups, hbefore, ha, hdrop⟩ :=
    exists_of_dropReference hnames h
  refine ⟨before.flatMap Member.groups ++ firsts, a, lasts ++ after.flatMap Member.groups, ?_,
    hbefore, ha, ?_⟩
  · simp [hmembers, hgroups]
  · simp [hdrop]

namespace EnumType

variable {e : EnumType} {group : String} {location : Option Location}

theorem isReference_iff {a : Attribute} :
    isReference group location a = true ↔
      a.args = [.text group] ∧ (location = none ∨ a.location = location) := by
  simp [isReference]

/-- Where a place is given, it is that of the reference. -/
theorem isReference_iff_of_isSome {a : Attribute} (h : location.isSome = true) :
    isReference group location a = true ↔ a.args = [.text group] ∧ a.location = location := by
  have hne : location ≠ none := Option.isSome_iff_ne_none.1 h
  rw [isReference_iff, or_iff_right hne]

theorem exists_of_findReference {member : String} {index : Nat}
    (hnames : (e.members.map Member.name).Nodup)
    (h : e.findReference group location = some (member, index)) :
    ∃ before a after, e.references = before ++ a :: after ∧
      (∀ b ∈ before, isReference group location b = false) ∧ isReference group location a = true ∧
      ((Edit.removeMembership member index).apply e).references = before ++ after :=
  Edit.flatMap_groups_dropReference hnames h

theorem findReference_eq_none :
    e.findReference group location = none ↔
      ∀ a ∈ e.references, isReference group location a = false := by
  simp [findReference, references, List.findIdx?_eq_none_iff]
  grind

end EnumType

end EnumAccessors

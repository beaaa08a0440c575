import EnumAccessors.Proofs.Fixes
import Mathlib.Data.List.Nodup

/-!
# Types after a fix

What the analysis gives after one of the two fixes for an unknown group, told in full from what it
gave before.

* `Diagnostic.analyze_addGroup`: declaring the group silences all that report it, in order, and the
  descriptor gains the group and nothing else (`EnumType.GainsGroup`).
* `Diagnostic.analyze_removeMembership`: dropping the reference leaves the descriptor alone and
  takes away the first diagnostic like the one that was mended.
-/

namespace EnumAccessors

/-! ### One more declaration -/

/-- It does not matter whether elements are left out before or after repetitions are. -/
theorem eraseDups_filter {α : Type} [BEq α] [LawfulBEq α] (p : α → Bool) :
    ∀ l : List α, (l.filter p).eraseDups = l.eraseDups.filter p
  | [] => rfl
  | a :: l => by
    have ih := eraseDups_filter p (l.filter fun b => !b == a)
    cases ha : p a with
    | true =>
      rw [List.filter_cons_of_pos ha, List.eraseDups_cons, List.eraseDups_cons,
        List.filter_cons_of_pos ha, ← ih, List.filter_filter, List.filter_filter]
      simp only [Bool.and_comm]
    | false =>
      -- the elements that are left are other ones already
      rw [List.filter_cons_of_neg (by simp [ha]), List.eraseDups_cons,
        List.filter_cons_of_neg (by simp [ha]), ← ih, List.filter_filter]
      refine congrArg List.eraseDups (List.filter_congr fun b _ => ?_)
      by_cases hb : b = a <;> simp [hb, ha]
termination_by l => l.length
decreasing_by exact Nat.lt_succ_of_le (List.length_filter_le _ _)

namespace GroupDeclaration

variable {declared : List GroupDeclaration} {attrs : List Attribute}
  {group accessorPrefix name : String}

theorem declaredNames_concat (hvalid : Identifier.isValid group = true)
    (hnew : group ∉ declaredNames attrs) :
    declaredNames (attrs ++ [{ args := [.text group] }]) = declaredNames attrs ++ [group] := by
  have hid : ({ args := [.text group] } : Attribute).identifier? 0 = some group :=
    Attribute.identifier?_eq_some_iff.2 ⟨rfl, hvalid⟩
  have hgiven : givenNames (attrs ++ [{ args := [.text group] }]) =
      givenNames attrs ++ [group] := by
    simp [givenNames, hid]
  rw [declaredNames, List.mem_eraseDups] at hnew
  rw [declaredNames, hgiven, List.eraseDups_append, declaredNames]
  simp [List.removeAll, hnew, List.eraseDups_cons]

/-- Of a group that is declared already, further declarations do not count. -/
theorem first_append_of_mem (h : name ∈ declaredNames attrs) (more : List Attribute) :
    first (attrs ++ more) name = first attrs name := by
  obtain ⟨a, ha, hid⟩ := mem_declaredNames.1 h
  have hfound : (attrs.find? fun a => a.arg? 0 = some (.text name)).isSome = true := by
    rw [List.find?_isSome]
    exact ⟨a, ha, by simpa using (Attribute.identifier?_eq_some_iff.1 hid).1⟩
  rw [first, first, firstPrefix, firstPrefix, List.find?_append, Option.or_of_isSome hfound]

theorem first_concat_self (h : ∀ a ∈ attrs, a.arg? 0 ≠ some (.text group)) :
    first (attrs ++ [{ args := [.text group] }]) group = ⟨group, "Is"⟩ := by
  have hfind : (attrs.find? fun a => a.arg? 0 = some (.text group)) = none := by
    simpa [List.find?_eq_none] using h
  have hlast : [({ args := [.text group] } : Attribute)].find?
      (fun a => a.arg? 0 = some (.text group)) = some { args := [.text group] } := by
    simp [Attribute.arg?]
  rw [first, firstPrefix, List.find?_append, hfind, hlast]
  rfl

/-- A reference that names no declared group may as well be missing. -/
theorem value_resolve_append_cons {a : Attribute} (h : (resolveOne declared a).value = none)
    (firsts lasts : List Attribute) :
    (resolve (firsts ++ a :: lasts) declared).value =
      (resolve (firsts ++ lasts) declared).value := by
  simp [resolve, h]

/-- With one more group declared, a member gains that group at most, and keeps the others. -/
theorem erase_resolve_concat (hnew : declares declared group = false) :
    (resolve attrs (declared ++ [⟨group, accessorPrefix⟩])).value.erase group =
      (resolve attrs declared).value := by
  have hone : ∀ a, (resolveOne declared a).value =
      (resolveOne (declared ++ [⟨group, accessorPrefix⟩]) a).value.filter
        fun name => name != group := by
    intro a
    ext name
    simp only [Option.filter_eq_some_iff, value_resolveOne_eq_some_iff,
      declares_append_singleton, Bool.or_eq_true, bne_iff_ne, beq_iff_eq]
    constructor
    · rintro ⟨hargs, hd⟩
      refine ⟨⟨hargs, .inl hd⟩, ?_⟩
      rintro rfl
      rw [hnew] at hd
      cases hd
    · rintro ⟨⟨hargs, hd | rfl⟩, hne⟩
      · exact ⟨hargs, hd⟩
      · exact absurd rfl hne
  rw [nodup_resolve.erase_eq_filter]
  simp only [resolve, Checked.value_map, Checked.value_each, List.filterMap_map,
    ← eraseDups_filter, List.filter_filterMap]
  exact congrArg List.eraseDups (List.filterMap_congr fun a _ => (hone a).symm)

/-- With the group declared, it is named once if a reference names it, and else not at all. -/
theorem count_resolve_concat :
    (resolve attrs (declared ++ [⟨group, accessorPrefix⟩])).value.count group =
      if ∃ a ∈ attrs, a.args = [.text group] then 1 else 0 := by
  have hmem : group ∈ (resolve attrs (declared ++ [⟨group, accessorPrefix⟩])).value ↔
      ∃ a ∈ attrs, a.args = [.text group] := by
    simp [mem_resolve, declares_append_singleton]
  simp [nodup_resolve.count, hmem]

end GroupDeclaration

/-! ### Declaring the group -/

/-- What a descriptor of the type gains when a group is declared that was unknown before. -/
structure EnumType.GainsGroup (e : EnumType) (group : String) (before after : Descriptor) :
    Prop where
  /-- The group stands behind the others. -/
  groups : after.groups = before.groups ++ [⟨group, "Is", e.membersOf group⟩]
  /-- Its name stands once with each member that refers to it, excluded or not. -/
  count : after.flags.map (fun f => f.groups.count group) =
    e.members.map fun m => if ∃ a ∈ m.groups, a.args = [.text group] then 1 else 0
  /-- But for its name the flags are what they were. -/
  flags : after.flags.map (fun f => { f with groups := f.groups.erase group }) = before.flags
  /-- All else is what it was. -/
  others : { after with flags := before.flags, groups := before.groups } = before

namespace Edit

variable {e : EnumType} {project : Option Naming} {group : String}

theorem declared_addGroup (hvalid : Identifier.isValid group = true)
    (hmentions : e.mentionsGroup group = false) :
    ((addGroup group).apply e).declared = e.declared ++ [⟨group, "Is"⟩] := by
  have hnew : group ∉ GroupDeclaration.declaredNames e.groups := by
    simp [EnumType.mem_declaredNames_iff, hmentions]
  have hnever := EnumType.mentionsGroup_eq_false_iff.1 hmentions
  rw [EnumType.declared, apply, GroupDeclaration.declaredNames_concat hvalid hnew, List.map_append,
    List.map_singleton, GroupDeclaration.first_concat_self hnever, EnumType.declared]
  congr 1
  exact List.map_congr_left fun g hg => GroupDeclaration.first_append_of_mem hg _

/-- What the group adds to the descriptor. -/
theorem gainsGroup_describe (project : Option Naming) (hvalid : Identifier.isValid group = true)
    (hmentions : e.mentionsGroup group = false) :
    e.GainsGroup group (e.describe project).value
      (((addGroup group).apply e).describe project).value := by
  have hdeclared := declared_addGroup hvalid hmentions
  have hnew := EnumType.declares_eq_false_of_not_mentionsGroup hmentions
  constructor
  · rw [EnumType.groups_eq_map_declared, EnumType.groups_eq_map_declared, hdeclared,
      List.map_append]
    rfl
  · rw [EnumType.value_describe, hdeclared, List.map_map]
    exact List.map_congr_left fun m _ => GroupDeclaration.count_resolve_concat
  · rw [EnumType.value_describe, EnumType.value_describe, hdeclared, List.map_map]
    refine List.map_congr_left fun m _ => ?_
    exact congrArg (fun groups => { m.toFlag e.declared with groups })
      (GroupDeclaration.erase_resolve_concat hnew)
  · rw [EnumType.value_describe, EnumType.value_describe]
    rfl

end Edit

/-- **Declaring an unknown group.**  If the group is an identifier, two fixes are offered for it.
Declaring it silences all diagnostics that report it and no others, and the descriptor gains the
group and nothing else. -/
theorem Diagnostic.analyze_addGroup {e : EnumType} {project : Option Naming} {d : Diagnostic}
    {group : String} (hd : d ∈ (e.analyze project).diagnostics) (hkind : d.kind = .unknownGroup)
    (hargs : d.args = [group]) (hvalid : Identifier.isValid group = true) :
    (∃ member index, d.fixes e = [.addGroup group, .removeMembership member index]) ∧
      (((Edit.addGroup group).apply e).analyze project).diagnostics =
        (e.analyze project).diagnostics.filter
          (fun d' => ¬ (d'.kind = .unknownGroup ∧ d'.args = [group])) ∧
      ∃ before after, (e.analyze project).value = some before ∧
        (((Edit.addGroup group).apply e).analyze project).value = some after ∧
        e.GainsGroup group before after := by
  obtain ⟨hcovered, a, ha, g, hag, hnew, rfl⟩ :=
    EnumType.mem_diagnostics_unknownGroup.1 ⟨hd, hkind⟩
  obtain ⟨rfl, -⟩ := List.cons.inj hargs
  have hmentions : e.mentionsGroup g = false := by
    simpa [EnumType.mem_declaredNames_iff, hvalid] using hnew
  have hoffered : (⟨.unknownGroup, a.location, [g]⟩ : Diagnostic).fixes e ≠ [] := by
    rw [ne_eq, fixes_eq_nil_iff ha hag, hmentions]
    exact Bool.false_ne_true
  refine ⟨?_, ?_, ?_⟩
  · obtain ⟨_, _, member, index, -, hgroup, -, -, hfixes⟩ := exists_of_fixes_ne_nil hoffered
    obtain ⟨rfl, -⟩ := List.cons.inj hgroup
    exact ⟨member, index, hfixes⟩
  · rw [Edit.diagnostics_addGroup hcovered hvalid hmentions]
    refine List.filter_congr fun d' _ => ?_
    rw [decide_not, ← Bool.decide_coe (d'.reportsUnknown g)]
    simp only [reportsUnknown_iff]
  · exact ⟨_, _, EnumType.value_analyze_eq_some_iff.2 ⟨hcovered, rfl⟩,
      EnumType.value_analyze_eq_some_iff.2 ⟨(Edit.isCovered_apply _).2 hcovered, rfl⟩,
      Edit.gainsGroup_describe project hvalid hmentions⟩

/-- Two members refer to the group, one of them twice and one excluded, beside references that are
in order, unknown for another group, and without arguments. -/
theorem Diagnostic.analyze_addGroup_excluded :
    let e : EnumType :=
      { name := "E", fullName := "E", accessibility := .public
        groups := [{ args := [.text "H", .text "In"] }, { args := [.text "a b"] }]
        members :=
          [{ name := "A"
             groups := [{ args := [.text "H"] }, { args := [.text "G"] },
               { args := [.text "G"], location := some ⟨"a.cs", 2, 5⟩ }] },
           { name := "B", exclude := some {}
             groups := [{ args := [.text "G"] }, { args := [.text "K"] }] },
           { name := "C", groups := [{ args := [.text "H"] }, {}] }] }
    let d : Diagnostic := ⟨.unknownGroup, none, ["G"]⟩
    d ∈ (e.analyze none).diagnostics ∧ Identifier.isValid "G" = true ∧
      (∃ member index, d.fixes e = [.addGroup "G", .removeMembership member index]) ∧
      (((Edit.addGroup "G").apply e).analyze none).diagnostics =
        (e.analyze none).diagnostics.filter
          (fun d' => ¬ (d'.kind = .unknownGroup ∧ d'.args = ["G"])) ∧
      ∃ before after, (e.analyze none).value = some before ∧
        (((Edit.addGroup "G").apply e).analyze none).value = some after ∧
        e.GainsGroup "G" before after := by
  intro e d
  have hd : d ∈ (e.analyze none).diagnostics := by decide
  have hvalid : Identifier.isValid "G" = true := by decide
  exact ⟨hd, hvalid, analyze_addGroup hd rfl rfl hvalid⟩

/-! ### Dropping the reference -/

/-- The second type is the first without one reference, wherever it stands. -/
def EnumType.Drops (e : EnumType) (a : Attribute) (e' : EnumType) : Prop :=
  ∃ before m after firsts lasts, e.members = before ++ m :: after ∧
    m.groups = firsts ++ a :: lasts ∧
    e' = { e with members := before ++ { m with groups := firsts ++ lasts } :: after }

/-- A reference that names no declared group is not seen in the descriptor. -/
theorem EnumType.Drops.value_analyze {e e' : EnumType} {a : Attribute} (h : e.Drops a e')
    (hnone : (GroupDeclaration.resolveOne e.declared a).value = none) (project : Option Naming) :
    (e'.analyze project).value = (e.analyze project).value := by
  obtain ⟨before, m, after, firsts, lasts, hmembers, hgroups, rfl⟩ := h
  have hflag : Member.toFlag e.declared { m with groups := firsts ++ lasts } =
      Member.toFlag e.declared m := by
    simp only [Member.toFlag, hgroups, GroupDeclaration.value_resolve_append_cons hnone]
  have hdescribe : (EnumType.describe
      { e with members := before ++ { m with groups := firsts ++ lasts } :: after } project).value =
      (e.describe project).value := by
    rw [value_describe, value_describe, hmembers, List.map_append, List.map_cons,
      List.map_append, List.map_cons, ← hflag]
    rfl
  ext descriptor
  rw [value_analyze_eq_some_iff, value_analyze_eq_some_iff, hdescribe]
  exact and_congr_left fun _ => isCovered_congr rfl rfl

/-- The edit drops a reference like the one it looks for. -/
theorem Edit.drops_removeMembership {e : EnumType} {group member : String} {index : Nat}
    {location : Option Location} (hnames : (e.members.map Member.name).Nodup)
    (hfind : e.findReference group location = some (member, index)) :
    ∃ a, EnumType.isReference group location a = true ∧
      e.Drops a ((removeMembership member index).apply e) := by
  obtain ⟨before, m, after, firsts, a, lasts, hmembers, hgroups, -, ha, hdrop⟩ :=
    exists_of_dropReference hnames hfind
  refine ⟨a, ha, before, m, after, firsts, lasts, hmembers, hgroups, ?_⟩
  rw [apply, hdrop]

/-- **Dropping a reference to an unknown group.**  Where a fix is offered for a diagnostic with a
place, dropping the reference takes one away that names just the group and stands at that place.
The descriptor stays, and of the diagnostics the first that is equal goes. -/
theorem Diagnostic.analyze_removeMembership {e : EnumType} {project : Option Naming}
    {d : Diagnostic} (hnames : (e.members.map Member.name).Nodup)
    (hd : d ∈ (e.analyze project).diagnostics) (hlocation : d.location.isSome = true)
    (hoffered : d.fixes e ≠ []) :
    ∃ group member index, d.args = [group] ∧
      d.fixes e = [.addGroup group, .removeMembership member index] ∧
      (∃ a, a.args = [.text group] ∧ a.location = d.location ∧
        e.Drops a ((Edit.removeMembership member index).apply e)) ∧
      (∃ descriptor, (e.analyze project).value = some descriptor ∧
        (((Edit.removeMembership member index).apply e).analyze project).value =
          some descriptor) ∧
      (((Edit.removeMembership member index).apply e).analyze project).diagnostics =
        (e.analyze project).diagnostics.erase d := by
  obtain ⟨group, rest, member, index, hkind, hargs, hmentions, hfind, hfixes⟩ :=
    exists_of_fixes_ne_nil hoffered
  obtain ⟨hcovered, reported, -, g, -, -, hreported⟩ :=
    EnumType.mem_diagnostics_unknownGroup.1 ⟨hd, hkind⟩
  obtain ⟨rfl, rfl⟩ : group = g ∧ rest = [] := by
    rw [hreported] at hargs
    exact ⟨(List.cons.inj hargs).1.symm, (List.cons.inj hargs).2.symm⟩
  have hfits : ∀ a, EnumType.isReference group d.location a = true →
      a.args = [.text group] ∧ a.location = d.location :=
    fun a => (EnumType.isReference_iff_of_isSome hlocation).1
  obtain ⟨a, ha, hdrops⟩ := Edit.drops_removeMembership hnames hfind
  obtain ⟨hargs_a, hlocation_a⟩ := hfits a ha
  refine ⟨group, member, index, hargs, hfixes, ⟨a, hargs_a, hlocation_a, hdrops⟩, ?_, ?_⟩
  · have hnone := GroupDeclaration.value_resolveOne_of_not_declares hargs_a
      (EnumType.declares_eq_false_of_not_mentionsGroup hmentions)
    rw [hdrops.value_analyze hnone]
    exact ⟨_, EnumType.value_analyze_eq_some_iff.2 ⟨hcovered, rfl⟩,
      EnumType.value_analyze_eq_some_iff.2 ⟨hcovered, rfl⟩⟩
  · obtain ⟨first, hfirst, -, herase⟩ :=
      Edit.diagnostics_removeMembership_eq_erase project hcovered hnames hmentions hfind
    have hsame : (⟨.unknownGroup, first.location, [group]⟩ : Diagnostic) = d := by
      rw [(hfits first (List.find?_some hfirst)).2, ← hkind, ← hargs]
    rw [herase, hsame]

/-- Two members have references to one group at the same place, between others that differ in the
group or the place.  The first of them goes, and one of two equal diagnostics stays. -/
theorem Diagnostic.analyze_removeMembership_repeated :
    let place : Location := ⟨"a.cs", 2, 5⟩
    let e : EnumType :=
      { name := "E", fullName := "E", accessibility := .public
        groups := [{ args := [.text "H"] }]
        members :=
          [{ name := "A", groups := [{ args := [.text "H"], location := some place },
               { args := [.text "G"], location := some ⟨"a.cs", 1, 5⟩ }] },
           { name := "B", groups := [{ args := [.text "K"], location := some place },
               { args := [.text "G"], location := some place }, { args := [.text "G"] }] },
           { name := "C", groups := [{ args := [.text "G"], location := some place }] }] }
    let d : Diagnostic := ⟨.unknownGroup, some place, ["G"]⟩
    let e' : EnumType := (Edit.removeMembership "B" 1).apply e
    (e.members.map Member.name).Nodup ∧ d ∈ (e.analyze none).diagnostics ∧
      d.fixes e = [.addGroup "G", .removeMembership "B" 1] ∧
      (∃ a, a.args = [.text "G"] ∧ a.location = some place ∧ e.Drops a e') ∧
      (∃ descriptor, (e.analyze none).value = some descriptor ∧
        (e'.analyze none).value = some descriptor) ∧
      (e'.analyze none).diagnostics = (e.analyze none).diagnostics.erase d := by
  intro place e d e'
  have hnames : (e.members.map Member.name).Nodup := by decide
  have hd : d ∈ (e.analyze none).diagnostics := by decide
  have hfixes : d.fixes e = [.addGroup "G", .removeMembership "B" 1] := by decide
  have hoffered : d.fixes e ≠ [] := by simp [hfixes]
  obtain ⟨group, member, index, hargs, hsame, hdrops, hvalue, herase⟩ :=
    analyze_removeMembership hnames hd rfl hoffered
  obtain ⟨rfl, rfl, rfl⟩ : "G" = group ∧ "B" = member ∧ 1 = index := by
    simpa [hfixes] using hsame
  exact ⟨hnames, hd, hfixes, hdrops, hvalue, herase⟩

end EnumAccessors

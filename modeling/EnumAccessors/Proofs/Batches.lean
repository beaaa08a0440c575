import EnumAccessors.Proofs.FixRuns
import Mathlib.Data.List.Basic

/-!
# Dropping all references that are offered for dropping

The edits of one sort that are offered for the diagnostics of a type (`EnumType.offered`) are all
found on the type as it is.  An edit that drops a reference tells its place on the member by a
number.  Where the edits are applied one after the other (`Edit.applyAll`), an earlier one shifts
the references behind it, and a later one may find another reference at its place, or none.

* `Edit.applyAll_eq`: among members of distinct names each edit acts on its own member only, so a
  list of edits comes down to the places that are erased on each member.
* `EnumType.offered_drops`: where each unknown group is reported at a place of its own, the places
  of a member are those of its references that a fix is offered for, in order.
* `EnumType.applyAll_offered_drops`: from the last to the first, the edits drop these references
  and keep all others.  From the first to the last they do so as long as no member has two of
  them, and else one of them is left.
-/

namespace EnumAccessors

/-! ### Erasing places one after the other -/

section Places

variable {α : Type} {p : α → Bool} {xs : List α}

theorem foldl_eraseIdx_sublist (places : List Nat) (xs : List α) :
    (places.foldl List.eraseIdx xs).Sublist xs := by
  induction places generalizing xs with
  | nil => exact List.Sublist.refl xs
  | cons i rest ih => exact (ih (xs.eraseIdx i)).trans (List.eraseIdx_sublist xs i)

/-- Places that are counted from one leave the head alone. -/
theorem foldl_eraseIdx_map_succ (places : List Nat) (x : α) (xs : List α) :
    (places.map (· + 1)).foldl List.eraseIdx (x :: xs) = x :: places.foldl List.eraseIdx xs := by
  induction places generalizing xs with
  | nil => rfl
  | cons i rest ih =>
    rw [List.map_cons, List.foldl_cons, List.foldl_cons, List.eraseIdx_cons_succ, ih]

theorem findIdxs_cons_of_pos {x : α} (h : p x = true) :
    (x :: xs).findIdxs p = 0 :: (xs.findIdxs p).map (· + 1) := by
  rw [List.findIdxs_cons, if_pos h, List.findIdxs_start]

theorem findIdxs_cons_of_neg {x : α} (h : p x = false) :
    (x :: xs).findIdxs p = (xs.findIdxs p).map (· + 1) := by
  rw [List.findIdxs_cons, if_neg (by simp [h]), List.findIdxs_start]

/-- From the last place to the first, no element is moved before it is its turn. -/
theorem foldl_eraseIdx_reverse_findIdxs (xs : List α) :
    (xs.findIdxs p).reverse.foldl List.eraseIdx xs = xs.filter fun x => !p x := by
  induction xs with
  | nil => rfl
  | cons x rest ih =>
    have hrest := foldl_eraseIdx_map_succ (rest.findIdxs p).reverse x rest
    rw [ih, List.map_reverse] at hrest
    cases hx : p x with
    | true =>
      rw [findIdxs_cons_of_pos hx, List.reverse_cons, List.foldl_append, hrest,
        List.filter_cons_of_neg (by simp [hx])]
      rfl
    | false => rw [findIdxs_cons_of_neg hx, hrest, List.filter_cons_of_pos (by simp [hx])]

/-- With one place at most, it does not matter where to begin. -/
theorem foldl_eraseIdx_findIdxs (h : xs.countP p ≤ 1) :
    (xs.findIdxs p).foldl List.eraseIdx xs = xs.filter fun x => !p x := by
  have hlength : (xs.findIdxs p).length ≤ 1 := by rwa [List.length_findIdxs]
  have hreverse : (xs.findIdxs p).reverse = xs.findIdxs p := by
    rcases hplaces : xs.findIdxs p with - | ⟨i, - | ⟨j, rest⟩⟩
    · rfl
    · rfl
    · simp [hplaces] at hlength
  have hlast := foldl_eraseIdx_reverse_findIdxs (p := p) xs
  rw [hreverse] at hlast
  exact hlast

/-- With all places one too far, the first element of the sort is left. -/
theorem exists_mem_foldl_eraseIdx_map_succ (h : 0 < xs.countP p) :
    ∃ x ∈ ((xs.findIdxs p).map (· + 1)).foldl List.eraseIdx xs, p x = true := by
  induction xs with
  | nil => simp at h
  | cons x rest ih =>
    cases hx : p x with
    | true =>
      rw [foldl_eraseIdx_map_succ]
      exact ⟨x, List.mem_cons_self, hx⟩
    | false =>
      rw [List.countP_cons_of_neg (by simp [hx])] at h
      obtain ⟨y, hy, hpy⟩ := ih h
      rw [findIdxs_cons_of_neg hx, foldl_eraseIdx_map_succ]
      exact ⟨y, List.mem_cons_of_mem x hy, hpy⟩

/-- From the first place to the last, the second element of the sort is left. -/
theorem exists_mem_foldl_eraseIdx (h : 2 ≤ xs.countP p) :
    ∃ x ∈ (xs.findIdxs p).foldl List.eraseIdx xs, p x = true := by
  induction xs with
  | nil => simp at h
  | cons x rest ih =>
    cases hx : p x with
    | true =>
      -- without the head, the other places are one too far
      rw [List.countP_cons_of_pos hx] at h
      rw [findIdxs_cons_of_pos hx]
      exact exists_mem_foldl_eraseIdx_map_succ (Nat.le_of_succ_le_succ h)
    | false =>
      rw [List.countP_cons_of_neg (by simp [hx])] at h
      obtain ⟨y, hy, hpy⟩ := ih h
      rw [findIdxs_cons_of_neg hx, foldl_eraseIdx_map_succ]
      exact ⟨y, List.mem_cons_of_mem x hy, hpy⟩

/-- Where each element of the sort gives what is made of its place, and no other gives anything. -/
theorem flatMap_eq_map_findIdxs {β : Type} {f : α → List β} {g : Nat → β}
    (h : ∀ before x after, xs = before ++ x :: after →
      f x = if p x then [g before.length] else []) :
    xs.flatMap f = (xs.findIdxs p).map g := by
  induction xs generalizing g with
  | nil => rfl
  | cons x rest ih =>
    have hhead := h [] x rest rfl
    have hrest : rest.flatMap f = (rest.findIdxs p).map fun i => g (i + 1) := by
      refine ih fun before y after hsplit => ?_
      exact h (x :: before) y after (by rw [hsplit, List.cons_append])
    rw [List.flatMap_cons, hhead, hrest]
    cases hx : p x with
    | true =>
      rw [findIdxs_cons_of_pos hx, List.map_cons, List.map_map]
      rfl
    | false =>
      rw [findIdxs_cons_of_neg hx, List.map_map]
      rfl

end Places

/-! ### Lists of edits -/

namespace Member

/-- The member without the references at the places, erased one after the other. -/
def erasing (m : Member) (places : List Nat) : Member :=
  { m with groups := places.foldl List.eraseIdx m.groups }

theorem erasing_erasing (m : Member) (places places' : List Nat) :
    (m.erasing places).erasing places' = m.erasing (places ++ places') := by
  simp only [erasing, List.foldl_append]

end Member

namespace Edit

/-- The declaration that is added. -/
def declaration? : Edit → Option Attribute
  | addGroup group => some { args := [.text group] }
  | removeMembership _ _ => none

/-- The place of the reference that is dropped, if it is one on the member. -/
def placeOn? (name : String) : Edit → Option Nat
  | addGroup _ => none
  | removeMembership member index => if member = name then some index else none

/-- The type after the edits, each applied to the outcome of the one before. -/
def applyAll (edits : List Edit) (e : EnumType) : EnumType :=
  edits.foldl (fun e edit => edit.apply e) e

theorem dropReference_eq_map {members : List Member} (hnames : (members.map Member.name).Nodup)
    (name : String) (index : Nat) :
    dropReference name index members =
      members.map fun m => m.erasing ((removeMembership name index).placeOn? m.name).toList := by
  induction members with
  | nil => rfl
  | cons m rest ih =>
    rw [List.map_cons, List.nodup_cons] at hnames
    rw [List.map_cons, ← ih hnames.2, dropReference]
    by_cases h : m.name = name
    · have hrest : ∀ m' ∈ rest, m'.name ≠ name := fun m' hm' heq =>
        hnames.1 (h.trans heq.symm ▸ List.mem_map_of_mem hm')
      rw [if_pos h, dropReference_of_forall_ne hrest, placeOn?, if_pos h.symm]
      rfl
    · rw [if_neg h, placeOn?, if_neg (Ne.symm h)]
      rfl

/-- What edits do to a type, one after the other: declarations are added behind the given ones, and
on each member the places are erased that are told for it. -/
theorem applyAll_eq {e : EnumType} (hnames : (e.members.map Member.name).Nodup)
    (edits : List Edit) :
    applyAll edits e =
      { e with
        groups := e.groups ++ edits.filterMap declaration?
        members := e.members.map fun m =>
          m.erasing (edits.filterMap fun x => x.placeOn? m.name) } := by
  induction edits generalizing e with
  | nil =>
    have hmembers : e.members.map (fun m => m.erasing []) = e.members := List.map_id _
    simp only [applyAll, List.foldl_nil, List.filterMap_nil, List.append_nil, hmembers]
  | cons edit rest ih =>
    have hrest := ih (e := edit.apply e) (by rw [map_name_members_apply]; exact hnames)
    have hstep : applyAll (edit :: rest) e = applyAll rest (edit.apply e) := rfl
    rw [hstep, hrest]
    cases edit with
    | addGroup group =>
      simp only [apply, List.append_assoc]
      rfl
    | removeMembership member index =>
      have hmembers : ∀ m : Member, (m.erasing ((removeMembership member index).placeOn?
          m.name).toList).erasing (rest.filterMap fun x => x.placeOn? m.name) =
            m.erasing ((removeMembership member index :: rest).filterMap
              fun x => x.placeOn? m.name) := by
        intro m
        rw [Member.erasing_erasing, List.filterMap_cons]
        cases (removeMembership member index).placeOn? m.name <;> rfl
      simp only [apply, dropReference_eq_map hnames, List.map_map, ← hmembers]
      rfl

end Edit

/-! ### The edits that are offered -/

namespace EnumType

/-- The edits of one sort that are offered for the diagnostics of the type, in their order. -/
def offered (e : EnumType) (project : Option Naming) (key : String) : List Edit :=
  ((e.analyze project).diagnostics.flatMap fun d => d.fixes e).filter fun edit =>
    edit.equivalenceKey == key

/-- The places at which unknown groups are reported. -/
def unknownPlaces (e : EnumType) (project : Option Naming) : List (Option Location) :=
  ((e.analyze project).diagnostics.filter fun d => d.kind == .unknownGroup).map
    Diagnostic.location

/-- Whether a fix is offered for a diagnostic that fits the reference. -/
def isOffending (e : EnumType) (project : Option Naming) (a : Attribute) : Bool :=
  (e.analyze project).diagnostics.any fun d =>
    !(d.fixes e).isEmpty && d.args.any fun group => isReference group d.location a

/-- The type without the references that a fix is offered for. -/
def withoutOffending (e : EnumType) (project : Option Naming) : EnumType :=
  { e with members := e.members.map fun m =>
      { m with groups := m.groups.filter fun a => !e.isOffending project a } }

variable {e : EnumType} {project : Option Naming} {a : Attribute}

/-- Nothing is offered on a type that gets no accessors. -/
theorem fixes_of_not_isCovered (project : Option Naming) (h : ¬ e.IsCovered) :
    ∀ d ∈ (e.analyze project).diagnostics, d.fixes e = [] := by
  intro d hd
  refine Diagnostic.fixes_of_kind_ne ?_ e
  rw [kind_of_not_isCovered h hd]
  decide

theorem fixes_of_not_isPending (h : e.isPending a = false) :
    ∀ d ∈ e.referenceDiagnostics a, d.fixes e = [] := by
  intro d hd
  by_cases hkind : d.kind = .unknownGroup
  · obtain ⟨group, hargs, -, rfl⟩ :=
      GroupDeclaration.mem_diagnostics_resolveOne_unknownGroup.1 ⟨hd, hkind⟩
    have hmentions : e.mentionsGroup group = true := by simpa [isPending, hargs] using h
    simp [Diagnostic.fixes, hmentions]
  · exact Diagnostic.fixes_of_kind_ne hkind e

/-- A pending reference of a covered type is reported. -/
theorem mem_diagnostics_of_isPending {group : String} (hcovered : e.IsCovered)
    (ha : a ∈ e.references) (hargs : a.args = [.text group])
    (hmentions : e.mentionsGroup group = false) :
    ⟨.unknownGroup, a.location, [group]⟩ ∈ (e.analyze project).diagnostics := by
  have hdeclared : group ∉ GroupDeclaration.declaredNames e.groups := by
    rw [mem_declaredNames_iff, hmentions]
    simp
  exact (mem_diagnostics_unknownGroup.2 ⟨hcovered, a, ha, group, hargs, hdeclared, rfl⟩).1

/-- The references that a fix is offered for are the pending ones. -/
theorem isOffending_iff (ha : a ∈ e.references) :
    e.isOffending project a = true ↔ e.IsCovered ∧ e.isPending a = true := by
  simp only [isOffending, List.any_eq_true, Bool.and_eq_true, Bool.not_eq_true',
    List.isEmpty_eq_false_iff]
  constructor
  · rintro ⟨d, hd, hfixes, group, hgroup, hfits⟩
    obtain ⟨edit, hedit⟩ := List.exists_mem_of_ne_nil _ hfixes
    obtain ⟨name, _, -, -, hkind, hargs, hmentions, -⟩ := Diagnostic.mem_fixes.1 hedit
    obtain ⟨hcovered, b, -, other, -, -, rfl⟩ := mem_diagnostics_unknownGroup.1 ⟨hd, hkind⟩
    obtain ⟨rfl, -⟩ := List.cons.inj hargs
    obtain rfl := List.mem_singleton.1 hgroup
    exact ⟨hcovered, isPending_iff.2 ⟨group, (isReference_iff.1 hfits).1, hmentions⟩⟩
  · rintro ⟨hcovered, hpending⟩
    obtain ⟨group, hargs, hmentions⟩ := isPending_iff.1 hpending
    refine ⟨_, mem_diagnostics_of_isPending hcovered ha hargs hmentions, ?_, group,
      List.mem_singleton_self group, isReference_iff.2 ⟨hargs, .inr rfl⟩⟩
    rw [Ne, Diagnostic.fixes_eq_nil_iff ha hargs, hmentions]
    decide

theorem isOffending_of_isCovered (h : e.IsCovered) (ha : a ∈ e.references) :
    e.isOffending project a = e.isPending a := by
  rw [Bool.eq_iff_iff, isOffending_iff ha]
  exact and_iff_right h

theorem isOffending_of_not_isCovered (h : ¬ e.IsCovered) (a : Attribute) :
    e.isOffending project a = false := by
  rw [isOffending, List.any_eq_false]
  intro d hd
  simp [fixes_of_not_isCovered project h d hd]

/-! ### Where the offered drops stand -/

/-- The places of the pending references are among those of the diagnostics. -/
theorem sublist_unknownPlaces (project : Option Naming) (h : e.IsCovered) :
    ((e.references.filter e.isPending).map Attribute.location).Sublist
      (e.unknownPlaces project) := by
  have hreported : ∀ references : List Attribute,
      ((references.filter e.isPending).map Attribute.location).Sublist
        (((references.flatMap e.referenceDiagnostics).filter fun d =>
          d.kind == .unknownGroup).map Diagnostic.location) := by
    intro references
    induction references with
    | nil => exact List.Sublist.refl _
    | cons a rest ih =>
      rw [List.flatMap_cons, List.filter_append, List.map_append]
      cases ha : e.isPending a with
      | true =>
        obtain ⟨group, -, -, hunknown⟩ := referenceDiagnostics_of_isPending ha
        rw [List.filter_cons_of_pos ha, hunknown]
        exact ih.cons_cons a.location
      | false =>
        rw [List.filter_cons_of_neg (by simp [ha])]
        exact List.sublist_append_of_sublist_right ih
  rw [unknownPlaces, diagnostics_analyze_of_isCovered h, List.filter_append, List.map_append]
  exact List.sublist_append_of_sublist_right (hreported e.references)

/-- With a place of its own, a pending reference is the first that is found for its diagnostic. -/
theorem findReference_of_isPending {group : String} {before after : List Member} {m : Member}
    {firsts rest : List Attribute} (hcovered : e.IsCovered)
    (hplaced : none ∉ e.unknownPlaces project) (hapart : (e.unknownPlaces project).Nodup)
    (hmembers : e.members = before ++ m :: after) (hgroups : m.groups = firsts ++ a :: rest)
    (hargs : a.args = [.text group]) (hmentions : e.mentionsGroup group = false) :
    e.findReference group a.location = some (m.name, firsts.length) := by
  have hsublist := sublist_unknownPlaces project hcovered
  have hreferences : e.references = (before.flatMap Member.groups ++ firsts) ++
      a :: (rest ++ after.flatMap Member.groups) := by
    simp [references, hmembers, hgroups]
  have hpending : e.isPending a = true := isPending_iff.2 ⟨group, hargs, hmentions⟩
  have hplace : a.location ≠ none := by
    intro hnone
    refine hplaced (hsublist.mem (hnone ▸ List.mem_map_of_mem (List.mem_filter.2 ⟨?_, hpending⟩)))
    rw [hreferences]
    exact List.mem_append_right _ List.mem_cons_self
  have hfirst : ∀ b ∈ before.flatMap Member.groups ++ firsts,
      isReference group a.location b = false := by
    intro b hb
    rw [← Bool.not_eq_true, isReference_iff]
    rintro ⟨hbargs, hbplace⟩
    have hbpending : e.isPending b = true := isPending_iff.2 ⟨group, hbargs, hmentions⟩
    -- two references at one place
    have hnodup := hapart.sublist hsublist
    rw [hreferences, List.filter_append, List.filter_cons_of_pos hpending, List.map_append,
      List.map_cons] at hnodup
    have hsame := hbplace.resolve_left hplace
    refine (List.nodup_append.1 hnodup).2.2 b.location ?_ a.location List.mem_cons_self hsame
    exact List.mem_map_of_mem (List.mem_filter.2 ⟨hb, hbpending⟩)
  have hfits : isReference group a.location a = true := isReference_iff.2 ⟨hargs, .inr rfl⟩
  simp only [List.mem_append, or_imp, forall_and, List.mem_flatMap] at hfirst
  have hbefore : (before.findSome? fun m =>
      (m.groups.findIdx? (isReference group a.location)).map fun i => (m.name, i)) = none := by
    rw [List.findSome?_eq_none_iff]
    intro m' hm'
    rw [Option.map_eq_none_iff, List.findIdx?_eq_none_iff]
    exact fun b hb => hfirst.1 b ⟨m', hm', hb⟩
  have hfound : m.groups.findIdx? (isReference group a.location) = some firsts.length := by
    rw [hgroups, List.findIdx?_append, List.findIdx?_eq_none_iff.2 hfirst.2, List.findIdx?_cons,
      if_pos hfits]
    simp
  rw [findReference, hmembers, List.findSome?_append, hbefore, List.findSome?_cons, hfound]
  rfl

/-- The offered drops, member by member. -/
theorem offered_drops (hplaced : none ∉ e.unknownPlaces project)
    (hapart : (e.unknownPlaces project).Nodup) :
    e.offered project "RemoveGroupFromField" = e.members.flatMap fun m =>
      (m.groups.findIdxs (e.isOffending project)).map (.removeMembership m.name) := by
  by_cases hcovered : e.IsCovered
  · have hown : ((e.ownDiagnostics project).flatMap fun d => d.fixes e) = [] := by
      rw [List.flatMap_eq_nil_iff]
      exact fun d hd => Diagnostic.fixes_of_kind_ne (kind_ne_unknownGroup_of_mem_own hd) e
    rw [offered, diagnostics_analyze_of_isCovered hcovered, List.flatMap_append, hown,
      List.nil_append, references, List.flatMap_assoc, List.flatMap_assoc, List.filter_flatMap]
    refine List.flatMap_congr fun m hm => ?_
    obtain ⟨before, after, hmembers⟩ := List.append_of_mem hm
    rw [List.filter_flatMap]
    refine flatMap_eq_map_findIdxs fun firsts a rest hgroups => ?_
    have ha : a ∈ e.references :=
      List.mem_flatMap.2 ⟨m, hm, hgroups ▸ List.mem_append_right _ List.mem_cons_self⟩
    rw [isOffending_of_isCovered hcovered ha]
    cases hpending : e.isPending a with
    | true =>
      obtain ⟨group, hargs, hmentions, hunknown⟩ := referenceDiagnostics_of_isPending hpending
      have hfind :=
        findReference_of_isPending hcovered hplaced hapart hmembers hgroups hargs hmentions
      rw [hunknown, List.flatMap_singleton]
      simp [Diagnostic.fixes, hmentions, hfind, Edit.equivalenceKey]
    | false =>
      rw [List.flatMap_eq_nil_iff.2 (fixes_of_not_isPending hpending)]
      rfl
  · have hnone := List.flatMap_eq_nil_iff.2 (fixes_of_not_isCovered project hcovered)
    rw [offered, hnone, List.filter_nil, eq_comm, List.flatMap_eq_nil_iff]
    intro m hm
    rw [List.map_eq_nil_iff, List.findIdxs_eq_nil_iff]
    exact fun a _ => isOffending_of_not_isCovered hcovered a

/-- On each member the offered drops erase the places of the references that a fix is offered
for. -/
theorem filterMap_placeOn?_offered (hnames : (e.members.map Member.name).Nodup)
    (hplaced : none ∉ e.unknownPlaces project) (hapart : (e.unknownPlaces project).Nodup)
    {m : Member} (hm : m ∈ e.members) :
    (e.offered project "RemoveGroupFromField").filterMap (fun x => x.placeOn? m.name) =
      m.groups.findIdxs (e.isOffending project) := by
  have hown : ∀ places : List Nat,
      (places.map (Edit.removeMembership m.name)).filterMap (fun x => x.placeOn? m.name) =
        places := by
    intro places
    simp [List.filterMap_map, Edit.placeOn?]
  have hothers : ∀ ms : List Member, (∀ m' ∈ ms, m'.name ≠ m.name) →
      (ms.flatMap fun m' => ((m'.groups.findIdxs (e.isOffending project)).map
        (Edit.removeMembership m'.name)).filterMap fun x => x.placeOn? m.name) = [] := by
    intro ms hms
    rw [List.flatMap_eq_nil_iff]
    intro m' hm'
    simp [List.filterMap_map, Edit.placeOn?, hms m' hm']
  obtain ⟨before, after, hmembers⟩ := List.append_of_mem hm
  rw [hmembers, List.map_append, List.map_cons, List.nodup_append, List.nodup_cons] at hnames
  obtain ⟨-, ⟨hafter, -⟩, hbefore⟩ := hnames
  rw [offered_drops hplaced hapart, List.filterMap_flatMap, hmembers, List.flatMap_append,
    List.flatMap_cons, hothers before, hothers after, hown]
  · simp
  · exact fun m' hm' heq => hafter (heq ▸ List.mem_map_of_mem hm')
  · exact fun m' hm' => hbefore m'.name (List.mem_map_of_mem hm') m.name List.mem_cons_self

/-- No declarations are added by the offered drops. -/
theorem filterMap_declaration?_offered :
    (e.offered project "RemoveGroupFromField").filterMap Edit.declaration? = [] := by
  rw [List.filterMap_eq_nil_iff]
  intro edit hedit
  have hkey := (List.mem_filter.1 hedit).2
  cases edit with
  | addGroup group => simp [Edit.equivalenceKey] at hkey
  | removeMembership member index => rfl

/-! ### The type without the offending references -/

theorem withoutOffending_of_not_isCovered (h : ¬ e.IsCovered) :
    e.withoutOffending project = e := by
  simp [withoutOffending, isOffending_of_not_isCovered h]

theorem references_withoutOffending :
    (e.withoutOffending project).references =
      e.references.filter fun a => !e.isOffending project a := by
  rw [references, references, withoutOffending, List.flatMap_map, List.filter_flatMap]

/-- What is left of the diagnostics are those that nothing is offered for. -/
theorem diagnostics_withoutOffending :
    ((e.withoutOffending project).analyze project).diagnostics =
      (e.analyze project).diagnostics.filter fun d => (d.fixes e).isEmpty := by
  by_cases hcovered : e.IsCovered
  · have hcovered' : (e.withoutOffending project).IsCovered := ⟨hcovered.1, hcovered.2⟩
    have hown : (e.withoutOffending project).ownDiagnostics project =
        e.ownDiagnostics project := by
      simp only [ownDiagnostics, withoutOffending, List.flatMap_map]
      rfl
    have hkeep : (e.ownDiagnostics project).filter (fun d => (d.fixes e).isEmpty) =
        e.ownDiagnostics project :=
      filter_ownDiagnostics fun d hkind => by rw [d.fixes_of_kind_ne hkind, List.isEmpty_nil]
    have hdropped : ∀ a ∈ e.references, (!e.isOffending project a) = false →
        ((e.referenceDiagnostics a).filter fun d => (d.fixes e).isEmpty) = [] := by
      intro a ha hoffending
      rw [isOffending_of_isCovered hcovered ha, Bool.not_eq_false'] at hoffending
      obtain ⟨group, hargs, hmentions, hunknown⟩ := referenceDiagnostics_of_isPending hoffending
      have hfixes := Diagnostic.fixes_eq_nil_iff ha hargs
      simpa [hunknown, hmentions] using hfixes
    have hleft : ∀ a ∈ e.references.filter fun a => !e.isOffending project a,
        (e.referenceDiagnostics a).filter (fun d => (d.fixes e).isEmpty) =
          e.referenceDiagnostics a := by
      intro a ha
      obtain ⟨ha, hoffending⟩ := List.mem_filter.1 ha
      rw [isOffending_of_isCovered hcovered ha, Bool.not_eq_true'] at hoffending
      rw [List.filter_eq_self]
      intro d hd
      rw [fixes_of_not_isPending hoffending d hd, List.isEmpty_nil]
    rw [diagnostics_analyze_of_isCovered hcovered', diagnostics_analyze_of_isCovered hcovered,
      hown, List.filter_append, hkeep, List.filter_flatMap, references_withoutOffending,
      ← flatMap_filter_of_forall hdropped, List.flatMap_congr hleft]
    rfl
  · rw [withoutOffending_of_not_isCovered hcovered, eq_comm, List.filter_eq_self]
    intro d hd
    rw [fixes_of_not_isCovered project hcovered d hd, List.isEmpty_nil]

/-! ### The offered drops in both orders -/

section Orders

variable (hnames : (e.members.map Member.name).Nodup) (hplaced : none ∉ e.unknownPlaces project)
  (hapart : (e.unknownPlaces project).Nodup)
include hnames hplaced hapart

theorem applyAll_offered :
    Edit.applyAll (e.offered project "RemoveGroupFromField") e =
      { e with members := e.members.map fun m =>
          m.erasing (m.groups.findIdxs (e.isOffending project)) } := by
  rw [Edit.applyAll_eq hnames, filterMap_declaration?_offered, List.append_nil,
    List.map_congr_left fun m hm => congrArg m.erasing
      (filterMap_placeOn?_offered hnames hplaced hapart hm)]

theorem applyAll_offered_reverse :
    Edit.applyAll (e.offered project "RemoveGroupFromField").reverse e =
      e.withoutOffending project := by
  have hmembers : ∀ m ∈ e.members,
      m.erasing ((e.offered project "RemoveGroupFromField").reverse.filterMap
        fun x => x.placeOn? m.name) =
        { m with groups := m.groups.filter fun a => !e.isOffending project a } := by
    intro m hm
    rw [List.filterMap_reverse, filterMap_placeOn?_offered hnames hplaced hapart hm,
      Member.erasing, foldl_eraseIdx_reverse_findIdxs]
  rw [Edit.applyAll_eq hnames, List.filterMap_reverse, filterMap_declaration?_offered,
    List.reverse_nil, List.append_nil, List.map_congr_left hmembers]
  rfl

/-- With one drop on a member at most, no drop shifts another one. -/
theorem applyAll_offered_of_countP_le_one
    (h : ∀ m ∈ e.members, m.groups.countP (e.isOffending project) ≤ 1) :
    Edit.applyAll (e.offered project "RemoveGroupFromField") e = e.withoutOffending project := by
  have hmembers : ∀ m ∈ e.members, m.erasing (m.groups.findIdxs (e.isOffending project)) =
      { m with groups := m.groups.filter fun a => !e.isOffending project a } := by
    intro m hm
    rw [Member.erasing, foldl_eraseIdx_findIdxs (h m hm)]
  rw [applyAll_offered hnames hplaced hapart, List.map_congr_left hmembers]
  rfl

/-- With two drops on a member, a reference is left that a fix is offered for. -/
theorem exists_fixes_of_two_le_countP {m : Member} (hm : m ∈ e.members)
    (h : 2 ≤ m.groups.countP (e.isOffending project)) :
    ∃ d ∈ ((Edit.applyAll (e.offered project "RemoveGroupFromField") e).analyze
      project).diagnostics, d.fixes e ≠ [] := by
  obtain ⟨a, ha, hoffending⟩ := exists_mem_foldl_eraseIdx h
  have hbefore : a ∈ e.references :=
    List.mem_flatMap.2 ⟨m, hm, (foldl_eraseIdx_sublist _ _).mem ha⟩
  obtain ⟨hcovered, hpending⟩ := (isOffending_iff hbefore).1 hoffending
  obtain ⟨group, hargs, hmentions⟩ := isPending_iff.1 hpending
  rw [applyAll_offered hnames hplaced hapart]
  refine ⟨⟨.unknownGroup, a.location, [group]⟩, ?_, ?_⟩
  · -- the declarations are still the same
    refine mem_diagnostics_of_isPending ⟨hcovered.1, hcovered.2⟩ ?_ hargs hmentions
    rw [references, List.flatMap_map]
    exact List.mem_flatMap.2 ⟨m, hm, ha⟩
  · rw [Ne, Diagnostic.fixes_eq_nil_iff hbefore hargs, hmentions]
    decide

end Orders

/-- **Dropping all at once.**  Among members of distinct names, where each unknown group is reported
at a place of its own, the offered drops applied from the last to the first drop the references
that a fix is offered for and keep all others, and of the diagnostics those are left that nothing
is offered for.  Applied from the first to the last they come to the same, or at least to a type on
which no diagnostic is left that a fix was offered for, only if no member has two such
references. -/
theorem applyAll_offered_drops {e : EnumType} {project : Option Naming}
    (hnames : (e.members.map Member.name).Nodup) (hplaced : none ∉ e.unknownPlaces project)
    (hapart : (e.unknownPlaces project).Nodup) :
    let drops := e.offered project "RemoveGroupFromField"
    Edit.applyAll drops.reverse e = e.withoutOffending project ∧
    ((e.withoutOffending project).analyze project).diagnostics =
      ((e.analyze project).diagnostics.filter fun d => (d.fixes e).isEmpty) ∧
    (Edit.applyAll drops e = e.withoutOffending project ↔
      ∀ m ∈ e.members, m.groups.countP (e.isOffending project) ≤ 1) ∧
    ((∀ d ∈ ((Edit.applyAll drops e).analyze project).diagnostics, d.fixes e = []) ↔
      ∀ m ∈ e.members, m.groups.countP (e.isOffending project) ≤ 1) := by
  intro drops
  have hsame := applyAll_offered_of_countP_le_one hnames hplaced hapart
  have hnothing : Edit.applyAll drops e = e.withoutOffending project →
      ∀ d ∈ ((Edit.applyAll drops e).analyze project).diagnostics, d.fixes e = [] := by
    intro h d hd
    rw [h, diagnostics_withoutOffending, List.mem_filter] at hd
    exact List.isEmpty_iff.1 hd.2
  have hcount : (∀ d ∈ ((Edit.applyAll drops e).analyze project).diagnostics, d.fixes e = []) →
      ∀ m ∈ e.members, m.groups.countP (e.isOffending project) ≤ 1 := by
    intro h m hm
    by_contra hle
    obtain ⟨d, hd, hfixes⟩ :=
      exists_fixes_of_two_le_countP hnames hplaced hapart hm (by omega)
    exact hfixes (h d hd)
  exact ⟨applyAll_offered_reverse hnames hplaced hapart, diagnostics_withoutOffending,
    ⟨fun h => hcount (hnothing h), hsame⟩, ⟨hcount, fun h => hnothing (hsame h)⟩⟩

/-- Two unknown groups around a declared one on `A`, and one of them again on `B`, where it is the
only one: from the last drop to the first `A` keeps the declared group, and from the first to the
last an unknown one is left on it. -/
theorem applyAll_offered_drops_around :
    let e : EnumType :=
      { name := "E", fullName := "E", accessibility := .public
        naming := some { args := [.text "PASCAL", .text "PASCAL"] }
        groups := [{ args := [.text "K"] }]
        members :=
          [{ name := "A"
             groups :=
               [{ args := [.text "U"], location := some ⟨"a.cs", 1, 1⟩ },
                { args := [.text "K"], location := some ⟨"a.cs", 1, 1⟩ },
                { args := [.text "V"], location := some ⟨"a.cs", 2, 1⟩ }] },
           { name := "B", groups := [{ args := [.text "U"], location := some ⟨"a.cs", 3, 1⟩ }] }] }
    let drops := e.offered none "RemoveGroupFromField"
    (e.members.map Member.name).Nodup ∧ none ∉ e.unknownPlaces none ∧
      (e.unknownPlaces none).Nodup ∧
      drops = [.removeMembership "A" 0, .removeMembership "A" 2, .removeMembership "B" 0] ∧
      (Edit.applyAll drops.reverse e).references =
        [{ args := [.text "K"], location := some ⟨"a.cs", 1, 1⟩ }] ∧
      ((Edit.applyAll drops.reverse e).analyze none).diagnostics = [] ∧
      Edit.applyAll drops e ≠ Edit.applyAll drops.reverse e := by
  intro e drops
  have hnames : (e.members.map Member.name).Nodup := by decide
  have hplaced : none ∉ e.unknownPlaces none := by decide
  have hapart : (e.unknownPlaces none).Nodup := by decide
  obtain ⟨hreverse, hdiagnostics, horder, -⟩ := applyAll_offered_drops hnames hplaced hapart
  refine ⟨hnames, hplaced, hapart, by decide, ?_, ?_, fun h => ?_⟩
  · rw [hreverse]
    decide
  · rw [hreverse, hdiagnostics]
    decide
  · exact absurd (horder.1 (h.trans hreverse)) (by decide)

/-- From the first to the last, the drop of `V` hits what stands behind it by then: the declared
group is lost, and `V` is still reported. -/
theorem not_applyAll_offered_drops :
    let kept : Attribute := { args := [.text "K"], location := some ⟨"a.cs", 3, 1⟩ }
    let left : Attribute := { args := [.text "V"], location := some ⟨"a.cs", 2, 1⟩ }
    let e : EnumType :=
      { name := "E", fullName := "E", accessibility := .public
        naming := some { args := [.text "PASCAL", .text "PASCAL"] }
        groups := [{ args := [.text "K"] }]
        members :=
          [{ name := "A"
             groups := [{ args := [.text "U"], location := some ⟨"a.cs", 1, 1⟩ }, left, kept] }] }
    let e' := Edit.applyAll (e.offered none "RemoveGroupFromField") e
    (e.members.map Member.name).Nodup ∧ none ∉ e.unknownPlaces none ∧
      (e.unknownPlaces none).Nodup ∧ e' ≠ e.withoutOffending none ∧
      e.isOffending none left = true ∧ e.isOffending none kept = false ∧
      e'.references = [left] ∧
      ∃ d ∈ (e'.analyze none).diagnostics, d ∈ (e.analyze none).diagnostics ∧ d.fixes e ≠ [] := by
  decide

end EnumType

end EnumAccessors

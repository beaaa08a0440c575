import EnumAccessors.Proofs.Batches
import Mathlib.Data.List.Forall2

/-!
# Edits over time

Edits are applied one after the other (`Edit.applyAll`), also such as were found on another type:
the member or the reference that they name may be missing by then, and of several members of one
name the first is taken.

* `EnumType.Edited`: what edits may change of a type.  A single edit keeps to it
  (`Edit.edited_apply`), and so do two lists of edits one behind the other
  (`EnumType.Edited.trans`).
* `Edit.applyAll_eq_sorted`: an edit that adds a declaration and one that drops a reference may
  change places, so all of the one sort may go before all of the other.
* `Edit.edited_applyAll`: both for any list of edits on any type.
-/

namespace EnumAccessors

/-- Whether the edit drops a reference. -/
def Edit.isRemoval : Edit → Bool
  | addGroup _ => false
  | removeMembership _ _ => true

/-! ### What edits leave alone -/

theorem forall₂_trans {α : Type} {r : α → α → Prop} (hr : ∀ x y z, r x y → r y z → r x z)
    {xs ys zs : List α} (h : List.Forall₂ r xs ys) (h' : List.Forall₂ r ys zs) :
    List.Forall₂ r xs zs := by
  induction h generalizing zs with
  | nil => exact h'
  | cons hhead _ ih =>
    cases h' with
    | cons hhead' htail' => exact .cons (hr _ _ _ hhead hhead') (ih htail')

namespace Member

/-- A member has kept all but references, and those that are left keep their order. -/
def Reduced (before after : Member) : Prop :=
  SameButReferences (fun before after => after.Sublist before) before after

variable {m m' m'' : Member}

theorem reduced_refl (m : Member) : m.Reduced m := ⟨rfl, List.Sublist.refl _⟩

theorem reduced_eraseIdx (m : Member) (index : Nat) :
    m.Reduced { m with groups := m.groups.eraseIdx index } :=
  ⟨rfl, List.eraseIdx_sublist _ _⟩

theorem Reduced.trans (h : m.Reduced m') (h' : m'.Reduced m'') : m.Reduced m'' where
  others := by
    rw [← h.others, ← h'.others]
  references := h'.references.trans h.references

end Member

/-- What a list of edits may change of a type. -/
structure EnumType.Edited (e : EnumType) (edits : List Edit) (e' : EnumType) : Prop where
  /-- Behind the given declarations stands one for each edit that adds one. -/
  declarations : e'.groups = e.groups ++ edits.filterMap Edit.declaration?
  /-- The members are the same but for references that are gone. -/
  members : List.Forall₂ Member.Reduced e.members e'.members
  /-- No more references are gone than edits drop one. -/
  references : e.references.length ≤ e'.references.length + edits.countP Edit.isRemoval
  /-- All else is what it was. -/
  others : { e' with groups := e.groups, members := e.members } = e

namespace EnumType.Edited

variable {e e' e'' : EnumType} {edits edits' : List Edit}

theorem refl (e : EnumType) : e.Edited [] e where
  declarations := (List.append_nil _).symm
  members := List.forall₂_same.2 fun m _ => m.reduced_refl
  references := Nat.le_refl _
  others := rfl

theorem trans (h : e.Edited edits e') (h' : e'.Edited edits' e'') :
    e.Edited (edits ++ edits') e'' where
  declarations := by
    rw [h'.declarations, h.declarations, List.filterMap_append, List.append_assoc]
  members := by
    refine forall₂_trans (fun _ _ _ hm hm' => ?_) h.members h'.members
    exact hm.trans hm'
  references := by
    have hle := h.references
    have hle' := h'.references
    rw [List.countP_append]
    omega
  others := by
    rw [← h.others, ← h'.others]

end EnumType.Edited

namespace Edit

theorem forall₂_dropReference (name : String) (index : Nat) (members : List Member) :
    List.Forall₂ Member.Reduced members (dropReference name index members) := by
  induction members with
  | nil => exact .nil
  | cons m rest ih =>
    rw [dropReference]
    split
    · exact .cons (m.reduced_eraseIdx index) (List.forall₂_same.2 fun m _ => m.reduced_refl)
    · exact .cons m.reduced_refl ih

/-- One reference is dropped at most, whether or not the edit finds it. -/
theorem length_flatMap_dropReference (name : String) (index : Nat) (members : List Member) :
    (members.flatMap Member.groups).length ≤
      ((dropReference name index members).flatMap Member.groups).length + 1 := by
  induction members with
  | nil => exact Nat.zero_le _
  | cons m rest ih =>
    have herase : m.groups.length ≤ (m.groups.eraseIdx index).length + 1 := by
      rw [List.length_eraseIdx]
      split <;> omega
    rw [dropReference]
    split <;> simp only [List.flatMap_cons, List.length_append] <;> omega

theorem edited_apply (edit : Edit) (e : EnumType) : e.Edited [edit] (edit.apply e) := by
  cases edit with
  | addGroup group =>
    exact
      { declarations := rfl
        members := (EnumType.Edited.refl e).members
        references := Nat.le_refl _
        others := rfl }
  | removeMembership member index =>
    exact
      { declarations := (List.append_nil _).symm
        members := forall₂_dropReference member index e.members
        references := length_flatMap_dropReference member index e.members
        others := rfl }

/-! ### The order of edits -/

/-- An edit may go before others that it may change places with. -/
theorem apply_applyAll {edit : Edit} {edits : List Edit}
    (h : ∀ x ∈ edits, ∀ e, edit.apply (x.apply e) = x.apply (edit.apply e)) (e : EnumType) :
    edit.apply (applyAll edits e) = applyAll edits (edit.apply e) := by
  induction edits generalizing e with
  | nil => rfl
  | cons x rest ih =>
    rw [List.forall_mem_cons] at h
    calc edit.apply (applyAll (x :: rest) e)
        = applyAll rest (edit.apply (x.apply e)) := ih h.2 (x.apply e)
      _ = applyAll (x :: rest) (edit.apply e) := by rw [h.1 e]; rfl

/-- One edit looks at the declarations only, the other one at the members. -/
theorem apply_addGroup_apply_removeMembership (group member : String) (index : Nat)
    (e : EnumType) :
    (addGroup group).apply ((removeMembership member index).apply e) =
      (removeMembership member index).apply ((addGroup group).apply e) := rfl

/-- First the declarations are added and then the references are dropped, each in their order. -/
theorem applyAll_eq_sorted (edits : List Edit) (e : EnumType) :
    applyAll edits e = applyAll (edits.filter isRemoval)
      (applyAll (edits.filter fun edit => !edit.isRemoval) e) := by
  induction edits generalizing e with
  | nil => rfl
  | cons edit rest ih =>
    refine (ih (edit.apply e)).trans ?_
    cases edit with
    | addGroup group => rfl
    | removeMembership member index =>
      -- the edit goes behind those that add a declaration
      refine congrArg (applyAll (rest.filter isRemoval)) (apply_applyAll (fun x hx e => ?_) e).symm
      cases x with
      | addGroup group => exact (apply_addGroup_apply_removeMembership group member index e).symm
      | removeMembership _ _ => exact absurd (List.mem_filter.1 hx).2 Bool.false_ne_true

/-- **Edits touch only what they name.**  Whatever edits are applied to a type one after the other,
a declaration stands behind the given ones for each edit that adds one, no member gains a
reference or has its references in another order, no more references are gone than edits drop one,
and all else is what it was.  An edit of the one sort and one of the other may change places, so
only the order among the edits of each sort matters. -/
theorem edited_applyAll (edits : List Edit) (e : EnumType) :
    e.Edited edits (applyAll edits e) ∧
    (∀ (group member : String) (index : Nat),
      (addGroup group).apply ((removeMembership member index).apply (applyAll edits e)) =
        (removeMembership member index).apply ((addGroup group).apply (applyAll edits e))) ∧
    ∀ edits' : List Edit, edits'.filter isRemoval = edits.filter isRemoval →
      (edits'.filter fun edit => !edit.isRemoval) = (edits.filter fun edit => !edit.isRemoval) →
      applyAll edits' e = applyAll edits e := by
  refine ⟨?_, fun group member index => apply_addGroup_apply_removeMembership group member index _,
    fun edits' hremovals hadditions => ?_⟩
  · induction edits generalizing e with
    | nil => exact .refl e
    | cons edit rest ih => exact (edit.edited_apply e).trans (ih (edit.apply e))
  · rw [applyAll_eq_sorted edits', hremovals, hadditions, ← applyAll_eq_sorted]

/-- Two members have one name, and some edits find nothing: there is no member `B`, and no
reference is left at the place when a reference has been dropped before. -/
theorem edited_applyAll_stale :
    let e : EnumType :=
      { name := "E", fullName := "E", accessibility := .private, groups := [{ args := [.null] }]
        members :=
          [{ name := "A", groups := [{ args := [.text "G"] }, { args := [.text "H"] }] },
           { name := "A", displayName := some {}, groups := [{ args := [.text "G"] }] }] }
    let edits : List Edit :=
      [.removeMembership "A" 1, .addGroup "G", .removeMembership "B" 0, .addGroup "a b",
        .removeMembership "A" 1, .addGroup "G"]
    let edits' : List Edit :=
      [.addGroup "G", .addGroup "a b", .removeMembership "A" 1, .removeMembership "B" 0,
        .addGroup "G", .removeMembership "A" 1]
    e.Edited edits (applyAll edits e) ∧
      edits'.filter isRemoval = edits.filter isRemoval ∧
      (edits'.filter fun edit => !edit.isRemoval) = (edits.filter fun edit => !edit.isRemoval) ∧
      applyAll edits' e = applyAll edits e ∧
      (applyAll edits e).groups.map Attribute.args =
        [[.null], [.text "G"], [.text "a b"], [.text "G"]] ∧
      (applyAll edits e).references.map Attribute.args = [[.text "G"], [.text "G"]] := by
  intro e edits edits'
  obtain ⟨hedited, -, horder⟩ := edited_applyAll edits e
  have hremovals : edits'.filter isRemoval = edits.filter isRemoval := by decide
  have hadditions : (edits'.filter fun edit => !edit.isRemoval) =
      (edits.filter fun edit => !edit.isRemoval) := by decide
  refine ⟨hedited, hremovals, hadditions, horder edits' hremovals hadditions, ?_, by decide⟩
  rw [hedited.declarations]
  decide

end Edit

end EnumAccessors

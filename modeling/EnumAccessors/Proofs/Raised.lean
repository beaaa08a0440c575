import EnumAccessors.Analysis.Describe

/-!
# What checks can raise

Which diagnostics a check raises at all, whatever it is given (`Checked.RaisesOnly`): a property of
diagnostics holds of all that are raised if it holds of those that the source of the check names,
for any place and any text.  Checks that are put together raise what their parts do.
-/

namespace EnumAccessors

/-- Whatever is raised has the property. -/
def Checked.RaisesOnly {α : Type} (x : Checked α) (p : Diagnostic → Prop) : Prop :=
  ∀ d ∈ x.diagnostics, p d

variable {p : Diagnostic → Prop}

namespace Checked

variable {α β : Type}

theorem raisesOnly_ok (a : α) : (ok a).RaisesOnly p := List.forall_mem_nil p

theorem raisesOnly_defaulted (a : α) {d : Diagnostic} (h : p d) : (defaulted a d).RaisesOnly p :=
  fun _ hd => List.mem_singleton.1 hd ▸ h

theorem RaisesOnly.bind {x : Checked α} {f : α → Checked β} (hx : x.RaisesOnly p)
    (hf : ∀ a, (f a).RaisesOnly p) : (x >>= f).RaisesOnly p := by
  intro d hd
  rw [diagnostics_bind, List.mem_append] at hd
  exact hd.elim (hx d) (hf x.value d)

theorem RaisesOnly.map {x : Checked α} (hx : x.RaisesOnly p) (f : α → β) :
    (x.map f).RaisesOnly p := hx

theorem raisesOnly_each {f : α → Checked β} (hf : ∀ a, (f a).RaisesOnly p) (xs : List α) :
    (each f xs).RaisesOnly p := by
  intro d hd
  rw [diagnostics_each, List.mem_flatMap] at hd
  obtain ⟨a, -, hd⟩ := hd
  exact hf a d hd

end Checked

open Checked

/-! ### Checks of single attributes -/

namespace Check

/-- Whatever the checks of an identifier raise has the property. -/
structure IdentifierKinds.Raise (kinds : IdentifierKinds) (p : Diagnostic → Prop) : Prop where
  absent : ∀ location, p ⟨kinds.absent, location, []⟩
  wrongType : ∀ location s, p ⟨kinds.wrongType, location, [s]⟩
  invalid : ∀ location s, p ⟨kinds.invalid, location, [s]⟩

theorem IdentifierKinds.Raise.kind_ne {kinds : IdentifierKinds} {kind : Diagnostic.Kind}
    (h : kind ∉ [kinds.absent, kinds.wrongType, kinds.invalid]) :
    kinds.Raise fun d => d.kind ≠ kind := by
  simp only [List.mem_cons, List.not_mem_nil, or_false, not_or] at h
  exact ⟨fun _ => Ne.symm h.1, fun _ _ => Ne.symm h.2.1, fun _ _ => Ne.symm h.2.2⟩

theorem raisesOnly_exclusion {kind : Diagnostic.Kind}
    (h : ∀ location s, p ⟨kind, location, [s]⟩) (attr : Option Attribute) :
    (exclusion attr kind).RaisesOnly p := by
  cases attr with
  | none => exact raisesOnly_ok _
  | some a =>
    unfold exclusion
    dsimp only
    split
    · exact raisesOnly_ok _
    · exact raisesOnly_ok _
    · exact raisesOnly_defaulted _ (h _ _)

section Identifiers

variable {kinds : IdentifierKinds} (h : kinds.Raise p)
include h

theorem raisesOnly_identifierArgument (v : Argument) (location : Option Location) :
    (identifierArgument v location kinds).RaisesOnly p := by
  unfold identifierArgument
  split
  · split
    · exact raisesOnly_ok _
    · exact raisesOnly_defaulted _ (h.invalid _ _)
  · exact raisesOnly_defaulted _ (h.wrongType _ _)

theorem raisesOnly_identifier (attr : Option Attribute) (owner : Option Location) :
    (identifier attr owner kinds).RaisesOnly p := by
  unfold identifier
  split
  · exact raisesOnly_ok _
  · split
    · exact raisesOnly_defaulted _ (h.absent _)
    · exact raisesOnly_identifierArgument h _ _

theorem raisesOnly_optionalIdentifier (a : Attribute) (index : Nat) :
    (optionalIdentifier a index kinds).RaisesOnly p := by
  unfold optionalIdentifier
  split
  · exact raisesOnly_ok _
  · exact raisesOnly_identifierArgument h _ _

end Identifiers

theorem raisesOnly_casing {kind : Diagnostic.Kind} (h : ∀ location s, p ⟨kind, location, [s]⟩)
    (c : Casing) (location : Option Location) : (casing c kind location).RaisesOnly p := by
  unfold casing
  split
  · exact raisesOnly_ok _
  · exact raisesOnly_defaulted _ (h _ _)

theorem raisesOnly_naming (hsource : ∀ location s, p ⟨.sourceCasing, location, [s]⟩)
    (htarget : ∀ location s, p ⟨.targetCasing, location, [s]⟩)
    (hargs : ∀ location, p ⟨.namingArguments, location, []⟩) (a : Attribute) (fallback : Naming) :
    (naming a fallback).RaisesOnly p := by
  unfold naming
  split
  · exact (raisesOnly_casing hsource _ _).bind fun _ =>
      (raisesOnly_casing htarget _ _).bind fun _ => raisesOnly_ok _
  · exact raisesOnly_defaulted _ (hargs _)

theorem raisesOnly_projectNaming (hsource : ∀ location s, p ⟨.sourceCasing, location, [s]⟩)
    (htarget : ∀ location s, p ⟨.targetCasing, location, [s]⟩)
    (hargs : ∀ location, p ⟨.namingArguments, location, []⟩) (attr : Option Attribute) :
    (projectNaming attr).RaisesOnly p := by
  unfold projectNaming
  split
  · exact raisesOnly_ok _
  · split
    · exact raisesOnly_defaulted _ (hargs _)
    · exact raisesOnly_naming hsource htarget hargs _ _

theorem raisesOnly_typeNaming (hsource : ∀ location s, p ⟨.sourceCasing, location, [s]⟩)
    (htarget : ∀ location s, p ⟨.targetCasing, location, [s]⟩)
    (hargs : ∀ location, p ⟨.namingArguments, location, []⟩) (habsent : p ⟨.namingAbsent, none, []⟩)
    (attr : Option Attribute) (project : Option Naming) :
    (typeNaming attr project).RaisesOnly p := by
  unfold typeNaming
  split
  · exact raisesOnly_naming hsource htarget hargs _ _
  · exact raisesOnly_ok _
  · exact raisesOnly_defaulted _ habsent

end Check

/-! ### Members and declarations -/

theorem Member.raisesOnly_analyze (hexclude : ∀ location s, p ⟨.flagExclusionType, location, [s]⟩)
    (hname : Check.IdentifierKinds.displayName.Raise p)
    (hpre : Check.IdentifierKinds.accessorPrefix.Raise p) (m : Member) :
    m.analyze.RaisesOnly p :=
  (Check.raisesOnly_exclusion hexclude _).bind fun _ =>
    (Check.raisesOnly_identifier hname _ _).bind fun _ =>
      (Check.raisesOnly_identifier hpre _ _).bind fun _ => raisesOnly_ok _

theorem GroupDeclaration.raisesOnly_collectFrom (hname : Check.IdentifierKinds.groupName.Raise p)
    (hpre : Check.IdentifierKinds.groupPrefix.Raise p) (owner : Option Location)
    (declared : List GroupDeclaration) (attrs : List Attribute) :
    (collectFrom owner declared attrs).RaisesOnly p := by
  induction attrs generalizing declared with
  | nil => exact raisesOnly_ok _
  | cons a rest ih =>
    refine (Check.raisesOnly_identifier hname _ _).bind fun given => ?_
    split
    · exact ih declared
    · split
      · exact ih declared
      · exact (Check.raisesOnly_optionalIdentifier hpre _ _).bind fun _ => ih _

theorem GroupDeclaration.raisesOnly_resolve
    (hunknown : ∀ location s, p ⟨.unknownGroup, location, [s]⟩)
    (htype : ∀ location s, p ⟨.groupNameType, location, [s]⟩)
    (hargs : ∀ location, p ⟨.membershipArguments, location, []⟩) (attrs : List Attribute)
    (declared : List GroupDeclaration) : (resolve attrs declared).RaisesOnly p := by
  refine (raisesOnly_each (fun a => ?_) attrs).map _
  unfold resolveOne
  split
  · split
    · exact raisesOnly_ok _
    · exact raisesOnly_defaulted _ (hunknown _ _)
  · exact raisesOnly_defaulted _ (htype _ _)
  · exact raisesOnly_defaulted _ (hargs _)

end EnumAccessors

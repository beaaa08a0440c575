import EnumAccessors.Analysis.Check

/-!
# What attributes say

Each check of an attribute goes on with a value and may raise a diagnostic.  Here both are told
from the arguments alone.

* `Argument.identifier?`, `Attribute.identifier?` and `Attribute.naming?` are what an argument or
  an attribute gives, if it gives anything; `Exclusion.IsLifted` is the one way of writing an
  exclusion that excludes nothing.
* `Check.value_identifier`, `Check.value_exclusion` and their like: the value of a check is what
  the attribute gives, or the default.
* `Check.diagnostics_identifier_eq_nil`, `Check.diagnostics_exclusion_eq_nil` and their like: a
  check is silent exactly if the attribute is absent or in order.
-/

namespace EnumAccessors

/-! ### What is given -/

/-- The identifier that an argument is. -/
def Argument.identifier? : Argument → Option String
  | .text s => if Identifier.isValid s then some s else none
  | _ => none

namespace Attribute

/-- The identifier that stands at a place among the arguments. -/
def identifier? (a : Attribute) (index : Nat) : Option String :=
  (a.arg? index).bind Argument.identifier?

/-- The naming preference that the first two arguments give. -/
def naming? (a : Attribute) : Option Naming :=
  match a.arg? 0, a.arg? 1 with
  | some source, some target => some ⟨.ofArgument source, .ofArgument target⟩
  | _, _ => none

end Attribute

/-- Nothing is excluded: there is no exclusion, or its first argument is false. -/
def Exclusion.IsLifted (exclude : Option Attribute) : Prop :=
  ∀ a ∈ exclude, a.arg? 0 = some (.bool false)

instance (exclude : Option Attribute) : Decidable (Exclusion.IsLifted exclude) :=
  inferInstanceAs (Decidable (∀ a ∈ exclude, a.arg? 0 = some (.bool false)))

theorem Argument.identifier?_eq_some_iff {v : Argument} {s : String} :
    v.identifier? = some s ↔ v = .text s ∧ Identifier.isValid s = true := by
  cases v with
  | text t =>
    by_cases ht : Identifier.isValid t = true
    · simp only [identifier?, ht, if_true, Option.some.injEq, text.injEq]
      exact ⟨fun h => ⟨h, h ▸ ht⟩, And.left⟩
    · simp only [identifier?, ht, text.injEq]
      exact ⟨fun h => by simp at h, fun h => absurd (h.1 ▸ h.2) ht⟩
  | bool b => simp [identifier?]
  | int n => simp [identifier?]
  | null => simp [identifier?]

theorem Attribute.identifier?_eq_some_iff {a : Attribute} {index : Nat} {s : String} :
    a.identifier? index = some s ↔
      a.arg? index = some (.text s) ∧ Identifier.isValid s = true := by
  simp only [identifier?, Option.bind_eq_some_iff, Argument.identifier?_eq_some_iff]
  constructor
  · rintro ⟨v, hv, rfl, hs⟩
    exact ⟨hv, hs⟩
  · rintro ⟨ha, hs⟩
    exact ⟨.text s, ha, rfl, hs⟩

/-- What is given as an identifier is one. -/
theorem Attribute.isValid_of_identifier? {a : Attribute} {index : Nat} {s : String}
    (h : a.identifier? index = some s) : Identifier.isValid s = true :=
  (identifier?_eq_some_iff.1 h).2

theorem Attribute.isValid_of_mem_bind {attr : Option Attribute} {index : Nat} {s : String}
    (h : s ∈ attr.bind fun a => a.identifier? index) : Identifier.isValid s = true := by
  obtain ⟨a, -, ha⟩ := Option.bind_eq_some_iff.1 h
  exact isValid_of_identifier? ha

/-- An identifier that may be given stays one with a default that is one. -/
theorem Attribute.isValid_bind_getD (attr : Option Attribute) (index : Nat) {default : String}
    (hdefault : Identifier.isValid default = true) :
    Identifier.isValid ((attr.bind fun a => a.identifier? index).getD default) = true := by
  cases h : attr.bind fun a => a.identifier? index with
  | none => exact hdefault
  | some s => exact isValid_of_mem_bind h

namespace Check

/-! ### Exclusions -/

@[simp] theorem value_exclusion (attr : Option Attribute) (kind : Diagnostic.Kind) :
    (exclusion attr kind).value = !decide (Exclusion.IsLifted attr) := by
  cases attr with
  | none => simp [exclusion, Exclusion.IsLifted]
  | some a =>
    simp only [exclusion, Exclusion.IsLifted, Option.mem_def, Option.some.injEq, forall_eq']
    rcases h : a.arg? 0 with - | (b | n | s | -) <;> simp

theorem exclusion_of_isLifted {attr : Option Attribute} (h : Exclusion.IsLifted attr)
    (kind : Diagnostic.Kind) : exclusion attr kind = .ok false := by
  cases attr with
  | none => rfl
  | some a => simp [exclusion, h a rfl]

theorem diagnostics_exclusion_eq_nil {attr : Option Attribute} {kind : Diagnostic.Kind} :
    (exclusion attr kind).diagnostics = [] ↔ ∀ a ∈ attr, ∀ v ∈ a.arg? 0, v.bool?.isSome := by
  cases attr with
  | none => simp [exclusion]
  | some a =>
    simp only [exclusion, Option.mem_def, Option.some.injEq, forall_eq']
    rcases h : a.arg? 0 with - | (b | n | s | -) <;> simp [Argument.bool?]

/-! ### Identifiers -/

@[simp] theorem value_identifierArgument (v : Argument) (location : Option Location)
    (kinds : IdentifierKinds) :
    (identifierArgument v location kinds).value = v.identifier? := by
  cases v with
  | text s => by_cases hs : Identifier.isValid s = true <;>
      simp [identifierArgument, Argument.identifier?, hs]
  | bool b => rfl
  | int n => rfl
  | null => rfl

theorem diagnostics_identifierArgument_eq_nil {v : Argument} {location : Option Location}
    {kinds : IdentifierKinds} :
    (identifierArgument v location kinds).diagnostics = [] ↔ v.identifier?.isSome := by
  cases v with
  | text s => by_cases hs : Identifier.isValid s = true <;>
      simp [identifierArgument, Argument.identifier?, hs]
  | bool b => simp [identifierArgument, Argument.identifier?]
  | int n => simp [identifierArgument, Argument.identifier?]
  | null => simp [identifierArgument, Argument.identifier?]

@[simp] theorem value_identifier (attr : Option Attribute) (owner : Option Location)
    (kinds : IdentifierKinds) :
    (identifier attr owner kinds).value = attr.bind fun a => a.identifier? 0 := by
  cases attr with
  | none => rfl
  | some a => cases h : a.arg? 0 <;> simp [identifier, Attribute.identifier?, h]

theorem diagnostics_identifier_eq_nil {attr : Option Attribute} {owner : Option Location}
    {kinds : IdentifierKinds} :
    (identifier attr owner kinds).diagnostics = [] ↔ ∀ a ∈ attr, (a.identifier? 0).isSome := by
  cases attr with
  | none => simp [identifier]
  | some a =>
    cases h : a.arg? 0 <;>
      simp [identifier, Attribute.identifier?, h, diagnostics_identifierArgument_eq_nil]

@[simp] theorem value_optionalIdentifier (a : Attribute) (index : Nat)
    (kinds : IdentifierKinds) :
    (optionalIdentifier a index kinds).value = a.identifier? index := by
  cases h : a.arg? index <;> simp [optionalIdentifier, Attribute.identifier?, h]

theorem diagnostics_optionalIdentifier_eq_nil {a : Attribute} {index : Nat}
    {kinds : IdentifierKinds} :
    (optionalIdentifier a index kinds).diagnostics = [] ↔
      ∀ v ∈ a.arg? index, v.identifier?.isSome := by
  cases h : a.arg? index <;>
    simp [optionalIdentifier, h, diagnostics_identifierArgument_eq_nil]

/-! ### Naming -/

@[simp] theorem value_casing (c : Casing) (kind : Diagnostic.Kind) (location : Option Location) :
    (casing c kind location).value = c := by
  unfold casing
  split <;> rfl

theorem diagnostics_casing_eq_nil {c : Casing} {kind : Diagnostic.Kind}
    {location : Option Location} :
    (casing c kind location).diagnostics = [] ↔ c.isIdentifierSafe = true := by
  unfold casing
  split
  · next h => simp [h]
  · next h => simp [h]

@[simp] theorem value_naming (a : Attribute) (fallback : Naming) :
    (naming a fallback).value = a.naming?.getD fallback := by
  unfold naming Attribute.naming?
  rcases a.arg? 0 with - | source
  · rfl
  · rcases a.arg? 1 with - | target
    · rfl
    · simp

theorem diagnostics_naming_eq_nil {a : Attribute} {fallback : Naming} :
    (naming a fallback).diagnostics = [] ↔ ∃ n ∈ a.naming?, n.isSupported = true := by
  unfold naming Attribute.naming?
  rcases a.arg? 0 with - | source
  · simp
  · rcases a.arg? 1 with - | target
    · simp
    · simp [diagnostics_casing_eq_nil, Naming.isSupported]

@[simp] theorem value_typeNaming (attr : Option Attribute) (project : Option Naming) :
    (typeNaming attr project).value =
      ((attr.bind Attribute.naming?).or project).getD .default := by
  cases attr with
  | none => cases project <;> rfl
  | some a =>
    simp only [typeNaming, value_naming, Option.bind_some]
    cases a.naming? <;> rfl

theorem diagnostics_typeNaming_eq_nil {attr : Option Attribute} {project : Option Naming} :
    (typeNaming attr project).diagnostics = [] ↔
      (attr = none ∧ project.isSome) ∨
        ∃ a ∈ attr, ∃ n ∈ a.naming?, n.isSupported = true := by
  cases attr with
  | none => cases project <;> simp [typeNaming]
  | some a => simp [typeNaming, diagnostics_naming_eq_nil]

end Check

end EnumAccessors

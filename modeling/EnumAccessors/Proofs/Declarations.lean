import EnumAccessors.Proofs.Groups
import Mathlib.Data.List.Infix

/-!
# Declarations one by one

What one declaration counts for depends on those before it and on nothing else.  Here it is told
for each attribute of a list beside the attributes before it (`eachAfter`):

* `GroupDeclaration.ofAttribute?`: the group that it declares.  The first declaration of a name is
  the one that counts, be its prefix in order or not.
* `GroupDeclaration.fault?`: the diagnostic about it.  A repeated declaration has none.

`GroupDeclaration.collect_after`: collecting gives just these groups and adds just these
diagnostics behind those that were raised before.
-/

namespace EnumAccessors

/-! ### Elements beside those before them -/

/-- What is found of each element of a list beside the elements before it. -/
def eachAfter {α β : Type} (f : List α → α → Option β) (xs : List α) : List β :=
  (xs.inits.zip xs).filterMap fun (before, x) => f before x

section EachAfter

variable {α β : Type}

@[simp] theorem eachAfter_nil (f : List α → α → Option β) : eachAfter f [] = [] := rfl

/-- The first element has none before it, and all others have it there. -/
theorem eachAfter_cons (f : List α → α → Option β) (x : α) (xs : List α) :
    eachAfter f (x :: xs) =
      (f [] x).toList ++ eachAfter (fun before => f (x :: before)) xs := by
  have hrest : ((xs.inits.map fun before => x :: before).zip xs).filterMap
      (fun (before, y) => f before y) = eachAfter (fun before => f (x :: before)) xs := by
    rw [List.zip_map_left, List.filterMap_map]
    rfl
  rw [eachAfter, List.inits_cons, List.zip_cons_cons, ← List.singleton_append,
    List.filterMap_append, hrest]
  cases h : f [] x <;> simp [h]

end EachAfter

/-! ### One declaration -/

/-- The diagnostic about an argument that has to be an identifier. -/
def Argument.identifierFault? (wrongType invalid : Diagnostic.Kind)
    (location : Option Location) : Argument → Option Diagnostic
  | .text s => if Identifier.isValid s then none else some ⟨invalid, location, [s]⟩
  | v => some ⟨wrongType, location, [v.typeName]⟩

theorem Check.diagnostics_identifierArgument (v : Argument) (location : Option Location)
    (kinds : Check.IdentifierKinds) :
    (Check.identifierArgument v location kinds).diagnostics =
      (v.identifierFault? kinds.wrongType kinds.invalid location).toList := by
  cases v with
  | text s =>
    by_cases hs : Identifier.isValid s = true <;>
      simp [Check.identifierArgument, Argument.identifierFault?, hs]
  | bool b => rfl
  | int n => rfl
  | null => rfl

namespace GroupDeclaration

/-- The group that an attribute declares after others: it starts with an identifier that none of
them starts with.  Its prefix is the second argument if that is an identifier. -/
def ofAttribute? (before : List Attribute) (a : Attribute) : Option GroupDeclaration :=
  (a.identifier? 0).bind fun name =>
    if ∃ b ∈ before, b.arg? 0 = some (.text name) then none
    else some ⟨name, (a.identifier? 1).getD "Is"⟩

/-- The diagnostic about the name of a group: it is missing, no text, or no identifier. -/
def nameFault? (owner : Option Location) (a : Attribute) : Option Diagnostic :=
  match a.arg? 0 with
  | none => some ⟨.prefixAbsent, a.location.or owner, []⟩
  | some v => v.identifierFault? .groupNameType .groupNameInvalid (a.location.or owner)

/-- The diagnostic about the prefix of a group: it is there, but no text or no identifier. -/
def prefixFault? (a : Attribute) : Option Diagnostic :=
  (a.arg? 1).bind fun v => v.identifierFault? .groupPrefixType .groupPrefixInvalid a.location

/-- The diagnostic about an attribute after others.  The prefix is looked at only where a group is
declared. -/
def fault? (owner : Option Location) (before : List Attribute) (a : Attribute) :
    Option Diagnostic :=
  match ofAttribute? before a with
  | some _ => prefixFault? a
  | none => nameFault? owner a

variable {owner : Option Location} {a : Attribute} {before : List Attribute} {name : String}

theorem diagnostics_identifier_groupName :
    (Check.identifier (some a) owner .groupName).diagnostics = (nameFault? owner a).toList := by
  cases h : a.arg? 0 with
  | none => simp [Check.identifier, nameFault?, h, Check.IdentifierKinds.groupName]
  | some v =>
    simp only [Check.identifier, nameFault?, h]
    exact Check.diagnostics_identifierArgument v _ _

theorem diagnostics_optionalIdentifier_groupPrefix :
    (Check.optionalIdentifier a 1 .groupPrefix).diagnostics = (prefixFault? a).toList := by
  cases h : a.arg? 1 with
  | none => simp [Check.optionalIdentifier, prefixFault?, h]
  | some v =>
    simp only [Check.optionalIdentifier, prefixFault?, h, Option.bind_some]
    exact Check.diagnostics_identifierArgument v _ _

theorem nameFault?_of_identifier? (h : a.identifier? 0 = some name) :
    nameFault? owner a = none := by
  obtain ⟨ha, hname⟩ := Attribute.identifier?_eq_some_iff.1 h
  simp [nameFault?, ha, Argument.identifierFault?, hname]

theorem ofAttribute?_of_identifier?_eq_none (h : a.identifier? 0 = none) :
    ofAttribute? before a = none := by
  rw [ofAttribute?, h, Option.bind_none]

theorem ofAttribute?_of_mem (h : a.identifier? 0 = some name)
    (hbefore : ∃ b ∈ before, b.arg? 0 = some (.text name)) : ofAttribute? before a = none := by
  rw [ofAttribute?, h, Option.bind_some, if_pos hbefore]

theorem ofAttribute?_of_not_mem (h : a.identifier? 0 = some name)
    (hbefore : ¬ ∃ b ∈ before, b.arg? 0 = some (.text name)) :
    ofAttribute? before a = some ⟨name, (a.identifier? 1).getD "Is"⟩ := by
  rw [ofAttribute?, h, Option.bind_some, if_neg hbefore]

/-! ### All declarations -/

/-- The groups declared so far are those whose names start an attribute so far. -/
def Covers (before : List Attribute) (declared : List GroupDeclaration) : Prop :=
  ∀ g, Identifier.isValid g = true →
    (declares declared g = true ↔ ∃ b ∈ before, b.arg? 0 = some (.text g))

namespace Covers

variable {declared : List GroupDeclaration}

theorem nil : Covers [] [] := by
  intro g _
  simp [declares]

/-- An attribute that does not start with an identifier declares nothing. -/
theorem skip (h : Covers before declared) (ha : a.identifier? 0 = none) :
    Covers (before ++ [a]) declared := by
  intro g hg
  have hne : a.arg? 0 ≠ some (.text g) := by
    intro harg
    rw [Attribute.identifier?_eq_some_iff.2 ⟨harg, hg⟩] at ha
    cases ha
  simp [h g hg, or_and_right, exists_or, hne]

/-- A name that is declared already adds nothing. -/
theorem repeated (h : Covers before declared) (ha : a.identifier? 0 = some name)
    (hdeclared : declares declared name = true) : Covers (before ++ [a]) declared := by
  intro g hg
  obtain ⟨harg, hname⟩ := Attribute.identifier?_eq_some_iff.1 ha
  have hname' : name = g → declares declared g = true := fun e => e ▸ hdeclared
  rw [h g hg] at hname'
  simp only [h g hg, List.mem_append, List.mem_singleton, or_and_right, exists_or, exists_eq_left,
    harg, Option.some.injEq, Argument.text.injEq]
  exact ⟨.inl, fun hor => hor.elim id hname'⟩

/-- A new name is declared from here on. -/
theorem added (h : Covers before declared) (ha : a.identifier? 0 = some name)
    (accessorPrefix : String) :
    Covers (before ++ [a]) (declared ++ [⟨name, accessorPrefix⟩]) := by
  intro g hg
  obtain ⟨harg, hname⟩ := Attribute.identifier?_eq_some_iff.1 ha
  rw [declares_append_singleton]
  simp [h g hg, or_and_right, exists_or, harg]

end Covers

/-- Collecting adds what each attribute declares after those before it, and raises what is wrong
with it there. -/
theorem collectFrom_eq {declared : List GroupDeclaration} (attrs : List Attribute)
    (h : Covers before declared) :
    collectFrom owner declared attrs =
      ⟨declared ++ eachAfter (fun next => ofAttribute? (before ++ next)) attrs,
        eachAfter (fun next => fault? owner (before ++ next)) attrs⟩ := by
  induction attrs generalizing before declared with
  | nil => simp [collectFrom, Checked.ok]
  | cons a rest ih =>
    -- whatever `a` counts for, it stands before the rest from here on
    have hafter : ∀ declared', Covers (before ++ [a]) declared' →
        collectFrom owner declared' rest =
          ⟨declared' ++ eachAfter (fun next => ofAttribute? (before ++ a :: next)) rest,
            eachAfter (fun next => fault? owner (before ++ a :: next)) rest⟩ := by
      intro declared' h'
      simpa only [List.append_assoc, List.singleton_append] using ih h'
    rw [collectFrom_cons, eachAfter_cons, eachAfter_cons, List.append_nil]
    cases hid : a.identifier? 0 with
    | none =>
      have hnone : ofAttribute? before a = none := ofAttribute?_of_identifier?_eq_none hid
      have hrest := hafter declared (h.skip hid)
      ext1
      · simp [hid, hrest, hnone]
      · simp [hid, hrest, hnone, fault?, diagnostics_identifier_groupName]
    | some name =>
      have hname : Identifier.isValid name = true := Attribute.isValid_of_identifier? hid
      have hsilent : (Check.identifier (some a) owner .groupName).diagnostics = [] := by
        rw [diagnostics_identifier_groupName, nameFault?_of_identifier? hid, Option.toList_none]
      by_cases hd : declares declared name = true
      · -- a repeated declaration is passed over in silence
        have hnone : ofAttribute? before a = none :=
          ofAttribute?_of_mem hid ((h name hname).1 hd)
        have hrest := hafter declared (h.repeated hid hd)
        ext1
        · simp [hid, hd, hrest, hnone]
        · simp [hid, hd, hrest, hnone, hsilent, fault?, nameFault?_of_identifier? hid]
      · have hsome : ofAttribute? before a = some ⟨name, (a.identifier? 1).getD "Is"⟩ :=
          ofAttribute?_of_not_mem hid fun hbefore => hd ((h name hname).2 hbefore)
        have hrest := hafter _ (h.added hid ((a.identifier? 1).getD "Is"))
        ext1
        · simp [hid, hd, hrest, hsome, Descriptor.defaultGroupPrefix]
        · simp [hid, hd, hrest, hsome, hsilent, fault?, Descriptor.defaultGroupPrefix,
            diagnostics_optionalIdentifier_groupPrefix]

/-- **The first declaration of a name counts, and later ones are silent.**  The groups collected
from attributes are those that each declares after the ones before it, and behind whatever was
raised before come the diagnostics about each attribute after the ones before it. -/
theorem collect_after {α : Type} (x : Checked α) (attrs : List Attribute)
    (owner : Option Location) :
    (x >>= fun _ => collect attrs owner) =
      ⟨eachAfter ofAttribute? attrs, x.diagnostics ++ eachAfter (fault? owner) attrs⟩ := by
  have hcollect : collect attrs owner =
      ⟨eachAfter ofAttribute? attrs, eachAfter (fault? owner) attrs⟩ := by
    rw [collect, collectFrom_eq attrs Covers.nil]
    simp
  ext1
  · rw [Checked.value_bind, hcollect]
  · rw [Checked.diagnostics_bind, hcollect]

-- a prefix that is out of order still leaves the name taken, so the last one is not looked at
example :
    (collect [⟨[], none⟩, ⟨[.int 1], none⟩, ⟨[.text "-"], none⟩, ⟨[.text "G", .bool true], none⟩,
        ⟨[.text "H", .text ""], none⟩, ⟨[.text "G", .int 1], none⟩] none).diagnostics.map
      (fun d => d.kind.id) =
    ["PFX-ABSENT", "GRP-NAME-TYPE", "GRP-NAME", "GRP-PREFIX-TYPE", "GRP-PREFIX"] := by
  decide

end GroupDeclaration

end EnumAccessors

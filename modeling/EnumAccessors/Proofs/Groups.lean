import EnumAccessors.Analysis.Groups
import EnumAccessors.Proofs.Reading

/-!
# Declared groups and their members

The declarations of a type are collected one after the other, and what is collected so far decides
what the next one counts for.  Here the outcome is told from the attributes alone.

* `GroupDeclaration.value_collect`: the groups are the names that start a declaration as
  identifiers, each once and in the order of first declaration; the prefix of a group is that of
  its first declaration.
* `GroupDeclaration.diagnostics_collect_eq_nil`: collecting is silent exactly if each declaration
  is proper after those before it (`GroupDeclaration.IsProper`).
* `GroupDeclaration.mem_resolve`: a member belongs to the declared groups that a reference of it
  names as its only argument, and `GroupDeclaration.diagnostics_resolve_eq_nil`: resolving is
  silent exactly if each reference names a declared group in this way.
-/

namespace EnumAccessors

/-- Each element is kept once. -/
theorem nodup_eraseDups {α : Type} [BEq α] [LawfulBEq α] : ∀ l : List α, l.eraseDups.Nodup
  | [] => List.nodup_nil
  | a :: l => by
    rw [List.eraseDups_cons, List.nodup_cons]
    refine ⟨fun h => ?_, nodup_eraseDups _⟩
    simp at h
termination_by l => l.length
decreasing_by exact Nat.lt_succ_of_le (List.length_filter_le _ _)

/-- Splitting a list before some element: at its head or in its tail. -/
theorem forall_split_cons {α : Type} {P : List α → α → Prop} {x : α} {xs : List α} :
    (∀ before a after, x :: xs = before ++ a :: after → P before a) ↔
      P [] x ∧ ∀ before a after, xs = before ++ a :: after → P (x :: before) a := by
  constructor
  · intro h
    exact ⟨h [] x xs rfl, fun before a after hxs => h (x :: before) a after (by rw [hxs]; rfl)⟩
  · rintro ⟨hx, h⟩ before a after hxs
    cases before with
    | nil =>
      obtain ⟨rfl, -⟩ := List.cons.inj hxs
      exact hx
    | cons y before =>
      obtain ⟨rfl, hxs'⟩ := List.cons.inj hxs
      exact h before a after hxs'

namespace GroupDeclaration

/-- The names that start a declaration as identifiers. -/
def givenNames (attrs : List Attribute) : List String :=
  attrs.filterMap fun a => a.identifier? 0

/-- The names that start a declaration as identifiers, each once, in the order of first
declaration. -/
def declaredNames (attrs : List Attribute) : List String := (givenNames attrs).eraseDups

/-- The prefix of a group: the second argument of its first declaration if it is an identifier. -/
def firstPrefix (attrs : List Attribute) (name : String) : String :=
  ((attrs.find? fun a => a.arg? 0 = some (.text name)).bind fun a => a.identifier? 1).getD "Is"

/-- The group of a name as its first declaration has it. -/
def first (attrs : List Attribute) (name : String) : GroupDeclaration :=
  ⟨name, firstPrefix attrs name⟩

@[simp] theorem name_first (attrs : List Attribute) (name : String) :
    (first attrs name).name = name := rfl

theorem mem_declaredNames {attrs : List Attribute} {name : String} :
    name ∈ declaredNames attrs ↔ ∃ a ∈ attrs, a.identifier? 0 = some name := by
  simp [declaredNames, givenNames]

theorem isValid_of_mem_declaredNames {attrs : List Attribute} {name : String}
    (h : name ∈ declaredNames attrs) : Identifier.isValid name = true := by
  obtain ⟨a, -, ha⟩ := mem_declaredNames.1 h
  exact Attribute.isValid_of_identifier? ha

theorem isValid_firstPrefix (attrs : List Attribute) (name : String) :
    Identifier.isValid (firstPrefix attrs name) = true :=
  Attribute.isValid_bind_getD _ 1 (by decide)

theorem first_cons_self {a : Attribute} {name : String} (h : a.identifier? 0 = some name)
    (rest : List Attribute) :
    first (a :: rest) name = ⟨name, (a.identifier? 1).getD "Is"⟩ := by
  simp [first, firstPrefix, (Attribute.identifier?_eq_some_iff.1 h).1]

/-- A name that does not start a declaration has its first one among the rest. -/
theorem first_cons_of_ne {a : Attribute} {name : String} (hname : Identifier.isValid name = true)
    (h : a.identifier? 0 ≠ some name) (rest : List Attribute) :
    first (a :: rest) name = first rest name := by
  have ha : a.arg? 0 ≠ some (.text name) := fun ha =>
    h (Attribute.identifier?_eq_some_iff.2 ⟨ha, hname⟩)
  simp [first, firstPrefix, ha]

theorem map_first_cons {a : Attribute} {rest : List Attribute} {p : String → Bool}
    (hp : ∀ g, a.identifier? 0 = some g → p g = false) :
    ((givenNames rest).filter p).eraseDups.map (first (a :: rest)) =
      ((givenNames rest).filter p).eraseDups.map (first rest) := by
  refine List.map_congr_left fun g hg => ?_
  simp only [List.mem_eraseDups, List.mem_filter, givenNames, List.mem_filterMap] at hg
  obtain ⟨⟨b, -, hb⟩, hpg⟩ := hg
  refine first_cons_of_ne (Attribute.isValid_of_identifier? hb) (fun ha => ?_) rest
  rw [hp g ha] at hpg
  cases hpg

theorem declares_iff {declared : List GroupDeclaration} {name : String} :
    declares declared name = true ↔ name ∈ declared.map GroupDeclaration.name := by
  simp [declares]

theorem declares_append_singleton (declared : List GroupDeclaration) (d : GroupDeclaration)
    (name : String) :
    declares (declared ++ [d]) name = (declares declared name || d.name == name) := by
  simp [declares]

theorem filter_not_declares_append (declared : List GroupDeclaration) (d : GroupDeclaration)
    (names : List String) :
    (names.filter fun g => !declares (declared ++ [d]) g) =
      (names.filter fun g => !declares declared g).filter fun g => !g == d.name := by
  rw [List.filter_filter]
  refine List.filter_congr fun g _ => ?_
  rw [declares_append_singleton, Bool.not_or, Bool.and_comm, Bool.beq_comm]

/-- A declaration is proper after those before it: it starts with an identifier, and unless one of
them starts with the same, its second argument is missing or an identifier. -/
def IsProper (before : List Attribute) (a : Attribute) : Prop :=
  (a.identifier? 0).isSome ∧
    ((∃ b ∈ before, b.arg? 0 = a.arg? 0) ∨ ∀ v ∈ a.arg? 1, v.identifier?.isSome)

/-! ### Declarations -/

section Collecting

variable (owner : Option Location) (declared : List GroupDeclaration)

/-- What one more declaration counts for. -/
theorem collectFrom_cons (a : Attribute) (rest : List Attribute) :
    collectFrom owner declared (a :: rest) =
      (Check.identifier (some a) owner .groupName >>= fun
        | none => collectFrom owner declared rest
        | some name =>
          if declares declared name then collectFrom owner declared rest
          else Check.optionalIdentifier a 1 .groupPrefix >>= fun given =>
            collectFrom owner (declared ++ [⟨name, given.getD Descriptor.defaultGroupPrefix⟩])
              rest) := rfl

/-- Collecting adds the first declaration of each name that is not declared before. -/
theorem value_collectFrom (attrs : List Attribute) :
    (collectFrom owner declared attrs).value =
      declared ++ ((givenNames attrs).filter fun g => !declares declared g).eraseDups.map
        (first attrs) := by
  induction attrs generalizing declared with
  | nil => simp [collectFrom, givenNames]
  | cons a rest ih =>
    rw [collectFrom_cons, Checked.value_bind, Check.value_identifier, Option.bind_some]
    cases h : a.identifier? 0 with
    | none =>
      have hnames : givenNames (a :: rest) = givenNames rest := by simp [givenNames, h]
      simp only [hnames, ih]
      rw [map_first_cons (by simp [h])]
    | some name =>
      have hnames : givenNames (a :: rest) = name :: givenNames rest := by simp [givenNames, h]
      rw [hnames]
      by_cases hd : declares declared name = true
      · simp only [hd, if_true, ih]
        rw [List.filter_cons_of_neg (by simp [hd]), map_first_cons (by simp [h, hd])]
      · -- what is collected next leaves out the other declarations of the name
        have hfirst : first (a :: rest) name =
            ⟨name, (a.identifier? 1).getD Descriptor.defaultGroupPrefix⟩ :=
          first_cons_self h rest
        simp only [hd, Bool.false_eq_true, if_false, Checked.value_bind,
          Check.value_optionalIdentifier, ← hfirst, ih]
        rw [← map_first_cons (a := a) (by simp [h, declares_append_singleton]),
          filter_not_declares_append, name_first, List.filter_cons_of_pos (by simpa using hd),
          List.eraseDups_cons, List.map_cons, List.append_assoc, List.singleton_append]

variable {owner declared}

/-- Collecting is silent exactly if each declaration is proper, where those that gave the groups
declared before count as earlier ones. -/
theorem diagnostics_collectFrom_eq_nil (earlier : List Attribute) {attrs : List Attribute}
    (h : ∀ g, Identifier.isValid g = true →
      (declares declared g = true ↔ ∃ b ∈ earlier, b.arg? 0 = some (.text g))) :
    (collectFrom owner declared attrs).diagnostics = [] ↔
      ∀ before a after, attrs = before ++ a :: after → IsProper (earlier ++ before) a := by
  induction attrs generalizing declared earlier with
  | nil => simp [collectFrom]
  | cons a rest ih =>
    rw [forall_split_cons, collectFrom_cons, Checked.diagnostics_bind, List.append_eq_nil_iff,
      Check.diagnostics_identifier_eq_nil, Check.value_identifier, Option.bind_some,
      List.append_nil]
    simp only [Option.mem_def, Option.some.injEq, forall_eq']
    cases hid : a.identifier? 0 with
    | none => simp [IsProper, hid]
    | some name =>
      obtain ⟨ha, hname⟩ := Attribute.identifier?_eq_some_iff.1 hid
      -- new or repeated, `a` counts as an earlier declaration of its name from here on
      have hrest : ∀ declared' : List GroupDeclaration,
          (∀ g, declares declared' g = true ↔ declares declared g = true ∨ name = g) →
          ((collectFrom owner declared' rest).diagnostics = [] ↔
            ∀ before b after, rest = before ++ b :: after →
              IsProper (earlier ++ a :: before) b) := by
        intro declared' h'
        rw [ih (earlier ++ [a])]
        · simp only [List.append_assoc, List.singleton_append]
        · intro g hg
          simp [h', h g hg, ha, or_and_right, exists_or]
      by_cases hd : declares declared name = true
      · have hproper : IsProper earlier a := by
          obtain ⟨b, hb, hbn⟩ := (h name hname).1 hd
          exact ⟨by simp [hid], .inl ⟨b, hb, hbn.trans ha.symm⟩⟩
        simp only [hd, if_true, hproper, Option.isSome_some, true_and]
        exact hrest declared fun g => ⟨.inl, fun hg => hg.elim id fun hg => hg ▸ hd⟩
      · have hproper : IsProper earlier a ↔ ∀ v ∈ a.arg? 1, v.identifier?.isSome := by
          simp only [IsProper, hid, Option.isSome_some, true_and, ha]
          exact or_iff_right fun hb => hd ((h name hname).2 hb)
        simp only [hd, Bool.false_eq_true, if_false, Option.isSome_some, true_and,
          Checked.diagnostics_bind, List.append_eq_nil_iff,
          Check.diagnostics_optionalIdentifier_eq_nil, hproper]
        refine and_congr_right fun _ => hrest _ fun g => ?_
        simp [declares_append_singleton]

end Collecting

/-- The groups that attributes declare. -/
theorem value_collect (attrs : List Attribute) (owner : Option Location) :
    (collect attrs owner).value = (declaredNames attrs).map (first attrs) := by
  simp only [collect, value_collectFrom, List.nil_append, declaredNames]
  rw [List.filter_eq_self.2 (by simp [declares])]

theorem diagnostics_collect_eq_nil {attrs : List Attribute} {owner : Option Location} :
    (collect attrs owner).diagnostics = [] ↔
      ∀ before a after, attrs = before ++ a :: after → IsProper before a := by
  simpa [collect] using diagnostics_collectFrom_eq_nil [] (by simp [declares])

/-! ### References -/

section Resolving

variable {declared : List GroupDeclaration} {attrs : List Attribute} {name : String}

theorem value_resolveOne_eq_some_iff {a : Attribute} :
    (resolveOne declared a).value = some name ↔
      a.args = [.text name] ∧ declares declared name = true := by
  unfold resolveOne
  split
  · next given h =>
    by_cases hd : declares declared given = true
    · simp only [hd, if_true, Checked.value_ok, h, Option.some.injEq, List.cons.injEq,
        Argument.text.injEq, and_true]
      exact ⟨fun e => ⟨e, e ▸ hd⟩, And.left⟩
    · simp only [hd, Bool.false_eq_true, if_false, Checked.value_defaulted, h, reduceCtorEq,
        List.cons.injEq, Argument.text.injEq, and_true, false_iff, not_and]
      rintro rfl
      exact hd
  · next v hv h => simpa [h] using fun e => absurd e (hv name)
  · next hv h => simpa using fun e => absurd e (h _)

theorem diagnostics_resolveOne_eq_nil {a : Attribute} :
    (resolveOne declared a).diagnostics = [] ↔
      ∃ name, a.args = [.text name] ∧ declares declared name = true := by
  have h : (resolveOne declared a).diagnostics = [] ↔
      (resolveOne declared a).value.isSome = true := by
    unfold resolveOne
    split
    · split <;> simp
    · simp
    · simp
  rw [h, Option.isSome_iff_exists]
  exact exists_congr fun _ => value_resolveOne_eq_some_iff

theorem mem_resolve :
    name ∈ (resolve attrs declared).value ↔
      declares declared name = true ∧ ∃ a ∈ attrs, a.args = [.text name] := by
  simp only [resolve, Checked.value_map, Checked.value_each, List.mem_eraseDups,
    List.mem_filterMap, List.mem_map, id_eq, exists_eq_right, value_resolveOne_eq_some_iff]
  constructor
  · rintro ⟨a, ha, hargs, hd⟩
    exact ⟨hd, a, ha, hargs⟩
  · rintro ⟨hd, a, ha, hargs⟩
    exact ⟨a, ha, hargs, hd⟩

theorem nodup_resolve : (resolve attrs declared).value.Nodup :=
  nodup_eraseDups _

theorem diagnostics_resolve_eq_nil :
    (resolve attrs declared).diagnostics = [] ↔
      ∀ a ∈ attrs, ∃ name, a.args = [.text name] ∧ declares declared name = true := by
  simp [resolve, diagnostics_resolveOne_eq_nil]

end Resolving

/-! ### Members -/

@[simp] theorem map_name_build (declared : List GroupDeclaration) (flags : List Flag) :
    (build declared flags).map Group.name = declared.map GroupDeclaration.name := by
  simp [build]

/-- The groups of some names as their first declarations have them, with their members. -/
theorem build_map_first (attrs : List Attribute) (names : List String) (flags : List Flag) :
    build (names.map (first attrs)) flags =
      names.map fun g => ⟨g, firstPrefix attrs g,
        (flags.filter fun f => !f.isExcluded && f.groups.contains g).map Flag.name⟩ := by
  rw [build, List.map_map]
  rfl

end GroupDeclaration

end EnumAccessors

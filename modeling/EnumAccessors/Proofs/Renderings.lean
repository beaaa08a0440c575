import EnumAccessors.Accessor.SourceUnit
import EnumAccessors.Proofs.Texts

/-!
# Reading renderings back

Accessors are written as methods and as properties, in two layouts.  Here both are read: a line
that opens like a signature gives a name if the line below it opens like an expression, and gives
that expression with it (`Layout.read`).  Which lines these are is found out from the lines alone,
not from how many there are to an accessor.

* `Layout.read_methodLines` and `Layout.read_propertyLines`: either layout gives the names of the
  accessors with their expressions, in their order.
* `Descriptor.classBody?_of_generate`: what stands between the braces of a generated class.
* `Accessor.renderings_agree`: the two layouts carry the same data, and a class with both holds the
  methods first and then the properties.
-/

namespace EnumAccessors

/-! ### Layouts -/

/-- How names and expressions are laid out on lines. -/
structure Layout where
  /-- What a line with a name begins with. -/
  nameOpening : String
  /-- What a line with a name ends with. -/
  nameClosing : String
  /-- What the line with the expression, below, begins with. -/
  expressionOpening : String

namespace Layout

/-- The layout of methods. -/
def methods (t : Target) : Layout where
  nameOpening := "    " ++ t.access ++ " static bool Get"
  nameClosing := "(this " ++ t.fullName ++ " " ++ t.receiver ++ ")"
  expressionOpening := "        => "

/-- The layout of properties. -/
def properties (t : Target) : Layout where
  nameOpening := "        " ++ t.access ++ " bool "
  nameClosing := ""
  expressionOpening := "            => "

/-- The name on a line, if there is one. -/
def name? (l : Layout) (line : String) : Option String :=
  Text.between? l.nameOpening l.nameClosing line

/-- The expression on a line, if there is one. -/
def expression? (l : Layout) (line : String) : Option String :=
  Text.between? l.expressionOpening ";" line

/-- The name on a line and the expression on the one below. -/
def item? (l : Layout) (line next : String) : Option (String × String) :=
  (l.name? line).bind fun name => (l.expression? next).map fun expression => (name, expression)

/-- All names on lines that have an expression below them, with these. -/
def read (l : Layout) : List String → List (String × String)
  | line :: next :: rest => (l.item? line next).toList ++ l.read (next :: rest)
  | _ => []

variable {l : Layout} {line next : String} {xs ys : List String}

theorem read_cons_cons (l : Layout) (line next : String) (rest : List String) :
    l.read (line :: next :: rest) = (l.item? line next).toList ++ l.read (next :: rest) := rfl

theorem item?_of_expression?_eq_none (h : l.expression? next = none) :
    l.item? line next = none := by
  rw [item?, h]
  exact Option.bind_fun_none _

/-- Lines can be read in parts that do not begin with an expression. -/
theorem read_append (h : ∀ line ∈ ys.head?, l.expression? line = none) :
    l.read (xs ++ ys) = l.read xs ++ l.read ys := by
  induction xs with
  | nil => rfl
  | cons x xs ih =>
    cases xs with
    | nil =>
      cases ys with
      | nil => rfl
      | cons y ys =>
        rw [List.singleton_append, read_cons_cons, item?_of_expression?_eq_none (h y rfl)]
        rfl
    | cons x' xs =>
      rw [List.cons_append, List.cons_append, read_cons_cons, ← List.cons_append, ih,
        read_cons_cons, List.append_assoc]

/-- Lines of which none but the first can have an expression give nothing. -/
theorem read_eq_nil (h : ∀ line ∈ xs.tail, l.expression? line = none) : l.read xs = [] := by
  induction xs with
  | nil => rfl
  | cons x xs ih =>
    cases xs with
    | nil => rfl
    | cons x' xs =>
      rw [List.tail_cons, List.forall_mem_cons] at h
      rw [read_cons_cons, item?_of_expression?_eq_none h.1, ih h.2]
      rfl

section Blocks

variable {α : Type} {block : α → List String} (hblank : l.expression? "" = none)
  (hblock : ∀ a, ∃ rest, block a = "" :: rest)
include hblank hblock

/-- What blocks of lines that begin with a blank one begin with is no expression. -/
theorem expression?_of_mem_head?_flatMap (as : List α) :
    ∀ line ∈ (as.flatMap block).head?, l.expression? line = none := by
  intro line hline
  cases as with
  | nil => cases hline
  | cons a as =>
    obtain ⟨rest, hrest⟩ := hblock a
    rw [List.flatMap_cons, hrest, List.cons_append, List.head?_cons, Option.mem_some_iff] at hline
    exact hline ▸ hblank

/-- Blocks of lines that begin with a blank one are read one after the other. -/
theorem read_flatMap {f : α → String × String} (hread : ∀ a, l.read (block a) = [f a])
    (as : List α) : l.read (as.flatMap block) = as.map f := by
  induction as with
  | nil => rfl
  | cons a as ih =>
    rw [List.flatMap_cons, read_append (expression?_of_mem_head?_flatMap hblank hblock as), hread,
      ih, List.map_cons, List.singleton_append]

end Blocks

/-- A name and the expression below it at the end of a block are all that the block gives, if no
line before them is an expression and the one right above them is no name. -/
theorem read_of_item? {front : List String} {above : String} {e : String × String}
    (hfront : ∀ x ∈ front ++ [above], l.expression? x = none) (habove : l.name? above = none)
    (hitem : l.item? line next = some e) : l.read (front ++ [above, line, next]) = [e] := by
  induction front with
  | nil =>
    have hnone : l.item? above line = none := by rw [item?, habove, Option.bind_none]
    rw [List.nil_append, read_cons_cons, read_cons_cons, hnone, hitem]
    rfl
  | cons x front ih =>
    rw [List.cons_append, List.forall_mem_cons] at hfront
    have hhead : ∀ y ∈ (front ++ [above, line, next]).head?, l.expression? y = none := by
      intro y hy
      refine hfront.2 y ?_
      cases front <;> simp_all
    rw [List.cons_append, ← List.singleton_append, read_append hhead, ih hfront.2]
    rfl

theorem expression?_eq_none_iff :
    l.expression? line = none ↔ ∀ s, line ≠ l.expressionOpening ++ s ++ ";" :=
  Text.between?_eq_none_iff

/-- A line without some character of the opening has no name. -/
theorem name?_eq_none_of_not_mem {c : Char} (hc : c ∈ l.nameOpening.toList)
    (hline : c ∉ line.toList) : l.name? line = none := by
  rw [name?, Text.between?_eq_none_iff]
  rintro s rfl
  exact hline (by simp [hc])

/-! ### Methods and properties -/

variable (t : Target) (a : Accessor)

/-- What an accessor says in either layout. -/
def item (t : Target) (a : Accessor) : String × String := (a.name, a.expression t)

theorem item?_methods :
    (methods t).item?
      ("    " ++ t.access ++ " static bool Get" ++ a.name ++ "(this " ++ t.fullName ++ " " ++
        t.receiver ++ ")") ("        => " ++ a.expression t ++ ";") = some (item t a) := by
  have hname : (methods t).name? ("    " ++ t.access ++ " static bool Get" ++ a.name ++ "(this " ++
      t.fullName ++ " " ++ t.receiver ++ ")") = some a.name := by
    rw [name?, Text.between?_eq_some_iff]
    simp [methods, String.append_assoc]
  rw [item?, hname, Option.bind_some, expression?, methods, Text.between?_append]
  rfl

theorem item?_properties :
    (properties t).item? ("        " ++ t.access ++ " bool " ++ a.name)
      ("            => " ++ a.expression t ++ ";") = some (item t a) := by
  have hname :
      (properties t).name? ("        " ++ t.access ++ " bool " ++ a.name) = some a.name := by
    rw [name?, Text.between?_eq_some_iff]
    simp [properties]
  rw [item?, hname, Option.bind_some, expression?, properties, Text.between?_append]
  rfl

theorem expression?_methods_empty : (methods t).expression? "" = none := by
  rw [expression?_eq_none_iff]
  simp [methods, ← String.toList_inj]

theorem expression?_properties_empty : (properties t).expression? "" = none := by
  rw [expression?_eq_none_iff]
  simp [properties, ← String.toList_inj]

theorem read_methodLinesOf : (methods t).read (Accessor.methodLinesOf t a) = [item t a] := by
  have hfront : ∀ line ∈ ["", "    /// <summary>", "    /// " ++ a.summary t.isFlags,
      "    /// </summary>", "    [Pure]"] ++
      ["    [MethodImpl(MethodImplOptions.AggressiveInlining)]"],
      (methods t).expression? line = none := by
    intro line hline
    rw [expression?_eq_none_iff]
    intro s
    simp only [List.cons_append, List.nil_append, List.mem_cons, List.not_mem_nil, or_false]
      at hline
    rcases hline with rfl | rfl | rfl | rfl | rfl | rfl <;> simp [methods, ← String.toList_inj]
  have habove :
      (methods t).name? "    [MethodImpl(MethodImplOptions.AggressiveInlining)]" = none :=
    name?_eq_none_of_not_mem (c := 'b') (by simp [methods]) (by simp)
  exact read_of_item? hfront habove (item?_methods t a)

theorem read_propertyLinesOf :
    (properties t).read (Accessor.propertyLinesOf t a) = [item t a] := by
  have hfront : ∀ line ∈ ["", "        /// <summary>", "        /// " ++ a.summary t.isFlags] ++
      ["        /// </summary>"], (properties t).expression? line = none := by
    intro line hline
    rw [expression?_eq_none_iff]
    intro s
    simp only [List.cons_append, List.nil_append, List.mem_cons, List.not_mem_nil, or_false]
      at hline
    rcases hline with rfl | rfl | rfl | rfl <;> simp [properties, ← String.toList_inj]
  have habove : (properties t).name? "        /// </summary>" = none :=
    name?_eq_none_of_not_mem (c := 'b') (by simp [properties]) (by simp)
  exact read_of_item? hfront habove (item?_properties t a)

variable (accessors : List Accessor)

/-- Methods give the names and expressions of the accessors. -/
theorem read_methodLines :
    (methods t).read (Accessor.methodLines t accessors) = accessors.map (item t) :=
  read_flatMap (expression?_methods_empty t) (fun _ => ⟨_, rfl⟩) (read_methodLinesOf t) accessors

/-- Nothing around the properties looks like an expression. -/
theorem expression?_properties_around (guard : Option String) :
    ∀ line ∈ "" :: Accessor.guardOpening guard ++
        ["    extension(" ++ t.fullName ++ " " ++ t.receiver ++ ") \x7b"] ++
        (["    \x7d"] ++ Accessor.guardClosing guard),
      (properties t).expression? line = none := by
  intro line hline
  rw [expression?_eq_none_iff]
  intro s
  cases guard with
  | none =>
    simp only [Accessor.guardOpening, Accessor.guardClosing, List.cons_append, List.nil_append,
      List.mem_cons, List.not_mem_nil, or_false] at hline
    rcases hline with rfl | rfl | rfl <;> simp [properties, ← String.toList_inj]
  | some symbol =>
    simp only [Accessor.guardOpening, Accessor.guardClosing, List.cons_append, List.nil_append,
      List.mem_cons, List.not_mem_nil, or_false] at hline
    rcases hline with rfl | rfl | rfl | rfl | rfl | rfl | rfl <;>
      simp [properties, ← String.toList_inj]

/-- Properties give the names and expressions of the accessors, guarded or not. -/
theorem read_propertyLines (guard : Option String) :
    (properties t).read (Accessor.propertyLines t guard accessors) = accessors.map (item t) := by
  have haround := expression?_properties_around t guard
  rw [List.forall_mem_append] at haround
  obtain ⟨hopening, hclosing⟩ := haround
  have hblocks : (properties t).read (accessors.flatMap (Accessor.propertyLinesOf t)) =
      accessors.map (item t) :=
    read_flatMap (expression?_properties_empty t) (fun _ => ⟨_, rfl⟩) (read_propertyLinesOf t)
      accessors
  rw [Accessor.propertyLines, List.append_assoc, read_append, read_append,
    read_eq_nil fun line h => hopening line (List.mem_of_mem_tail h),
    read_eq_nil fun line h => hclosing line (List.mem_of_mem_tail h), hblocks, List.nil_append,
    List.append_nil]
  · exact expression?_of_mem_head?_flatMap (expression?_properties_empty t) (fun _ => ⟨_, rfl⟩)
      accessors
  · exact fun line h => hclosing line (List.mem_of_mem_head? h)

end Layout

/-! ### Classes -/

namespace Descriptor

variable {d : Descriptor} {o : Options} {u : SourceUnit}

/-- A source file up to the opening brace of the class. -/
def classOpening (d : Descriptor) : String :=
  Text.unlines
    (d.headerLines ++ [d.access ++ " static partial class " ++ d.extensionName ++ " \x7b"])

/-- What stands between the braces of the class in a source file. -/
def classBody? (d : Descriptor) (text : String) : Option String :=
  Text.between? d.classOpening (Text.unlines ["\x7d"]) text

theorem text_of_generate (h : d.generate o = some u) :
    u.text = String.intercalate "\n" (d.lines o) := by
  unfold generate at h
  split at h
  · cases h
  · obtain rfl := Option.some.inj h
    rfl

theorem exists_generate (haccessors : d.accessors ≠ [])
    (ho : o.methods = true ∨ o.properties = true) : ∃ u, d.generate o = some u := by
  have hempty : d.accessors.isEmpty = false := by simpa using haccessors
  have henabled : (!o.methods && !o.properties) = false := by
    rcases ho with h | h <;> simp [h]
  simp [generate, hempty, henabled]

/-- Between the braces of a class stand the lines of its body. -/
theorem classBody?_of_generate (h : d.generate o = some u) :
    d.classBody? u.text = some (Text.unlines (d.bodyLines o)) := by
  have hlines : d.lines o = d.headerLines ++
      [d.access ++ " static partial class " ++ d.extensionName ++ " \x7b"] ++ d.bodyLines o ++
      ["\x7d"] ++ [""] := by
    simp [lines]
  rw [classBody?, Text.between?_eq_some_iff, text_of_generate h, hlines,
    Text.intercalate_concat_empty, Text.unlines_append, Text.unlines_append, classOpening]

end Descriptor

/-- **Both renderings agree.**  Methods and properties, guarded or not, give the names of the
accessors with their expressions, each once and in their order; and the class of a type with both
holds what stands in the class with methods only, and behind it what stands in the class with
properties only. -/
theorem Accessor.renderings_agree (t : Target) (guard : Option String)
    (accessors : List Accessor) :
    (Layout.methods t).read (methodLines t accessors) =
        (Layout.properties t).read (propertyLines t guard accessors) ∧
      (Layout.properties t).read (propertyLines t guard accessors) =
        accessors.map (fun a => (a.name, a.expression t)) ∧
      ∀ (d : Descriptor) (o : Options), d.accessors ≠ [] → o.methods = true →
        o.properties = true → ∃ both methods properties methodBody propertyBody,
          d.generate o = some both ∧
          d.generate { o with properties := false } = some methods ∧
          d.generate { o with methods := false } = some properties ∧
          d.classBody? methods.text = some methodBody ∧
          d.classBody? properties.text = some propertyBody ∧
          d.classBody? both.text = some (methodBody ++ propertyBody) := by
  refine ⟨?_, Layout.read_propertyLines t accessors guard, ?_⟩
  · rw [Layout.read_methodLines, Layout.read_propertyLines]
  · intro d o haccessors hmethods hproperties
    obtain ⟨both, hboth⟩ := Descriptor.exists_generate haccessors (.inl hmethods)
    obtain ⟨methods, hm⟩ := Descriptor.exists_generate (o := { o with properties := false })
      haccessors (.inl hmethods)
    obtain ⟨properties, hp⟩ := Descriptor.exists_generate (o := { o with methods := false })
      haccessors (.inr hproperties)
    have hbody : d.bodyLines o = d.bodyLines { o with properties := false } ++
        d.bodyLines { o with methods := false } := by
      simp [Descriptor.bodyLines, hmethods, hproperties, Descriptor.target]
    refine ⟨both, methods, properties, _, _, hboth, hm, hp,
      Descriptor.classBody?_of_generate hm, Descriptor.classBody?_of_generate hp, ?_⟩
    rw [Descriptor.classBody?_of_generate hboth, hbody, Text.unlines_append]

/-- A discrete type with an excluded member and a group, where the two accessors take expressions of
different kinds. -/
theorem Accessor.renderings_agree_mixed :
    let d : Descriptor :=
      { name := "E", scope := "N", fullName := "N.E", accessibility := .internal, isFlags := false
        accessorPrefix := "Has", naming := .default
        flags := [{ name := "A", groups := ["G"] }, { name := "B", isExcluded := true }]
        groups := [{ name := "G", accessorPrefix := "Is", members := ["A"] }] }
    let o : Options := {}
    d.accessors ≠ [] ∧ o.methods = true ∧ o.properties = true ∧
      (Layout.methods (d.target o)).read (methodLines (d.target o) d.accessors) =
        [("HasA", "value == N.E.A"), ("IsG", "value is N.E.A")] ∧
      ∃ both methods properties methodBody propertyBody, d.generate o = some both ∧
        d.generate { o with properties := false } = some methods ∧
        d.generate { o with methods := false } = some properties ∧
        d.classBody? methods.text = some methodBody ∧
        d.classBody? properties.text = some propertyBody ∧
        d.classBody? both.text = some (methodBody ++ propertyBody) := by
  intro d o
  obtain ⟨hsame, hread, hclass⟩ := renderings_agree (d.target o) o.propertyGuard d.accessors
  have haccessors : d.accessors ≠ [] := by simp [Descriptor.accessors, d]
  exact ⟨haccessors, rfl, rfl, (hsame.trans hread).trans (by decide),
    hclass d o haccessors rfl rfl⟩

end EnumAccessors

import EnumAccessors.Proofs.Conversion
import EnumAccessors.Proofs.Renderings
import EnumAccessors.Proofs.Sources

/-!
# The guarded region of a source

A guard wraps the properties of a source file into a region that a preprocessor keeps or cuts out.
A source has the lines that it was put together from as long as no text of the descriptor has a line
break in it (`Text.IsSingleLine`).

* `Descriptor.lines_of_guard`: the lines of a guarded source: those before the region, the region
  between its two directives, and those behind it.
* `Descriptor.isPlain_lead` and `Descriptor.isPlain_block`: no other line is a directive.
* `Descriptor.guard_cuts_cleanly`: without the directives the source is the one without a guard,
  and without the region it is the one without properties.
-/

namespace EnumAccessors

/-! ### Directives -/

namespace Text

/-- Whether a line starts with a text. -/
def startsWith (opening line : String) : Bool := opening.toList.isPrefixOf line.toList

/-- The lines without the first region, from the line that opens it to the one that closes it. -/
def withoutRegion (lines : List String) : List String :=
  lines.takeWhile (fun line => !startsWith "#if" line) ++
    ((lines.dropWhile fun line => !startsWith "#if" line).dropWhile
      fun line => !startsWith "#endif" line).tail

/-- The lines that are not blank. -/
def nonblank (lines : List String) : List String := lines.filter fun line => line ≠ ""

@[simp] theorem nonblank_append (xs ys : List String) :
    nonblank (xs ++ ys) = nonblank xs ++ nonblank ys :=
  List.filter_append xs ys

@[simp] theorem nonblank_cons_empty (xs : List String) : nonblank ("" :: xs) = nonblank xs := by
  simp [nonblank]

/-- A line that is one, and none for the preprocessor. -/
structure IsPlain (line : String) : Prop where
  isSingleLine : IsSingleLine line
  not_directive : startsWith "#" line = false

/-- What starts with a directive is one. -/
theorem IsPlain.not_startsWith {opening line : String} (h : IsPlain line)
    (hopening : startsWith "#" opening = true) : startsWith opening line = false := by
  rw [← Bool.not_eq_true]
  intro hline
  have hdirective : startsWith "#" line = true := by
    rw [startsWith, List.isPrefixOf_iff_prefix] at hopening hline ⊢
    exact hopening.trans hline
  rw [h.not_directive] at hdirective
  cases hdirective

theorem filter_directives {lines : List String} (h : ∀ line ∈ lines, IsPlain line) :
    lines.filter (startsWith "#") = [] := by
  rw [List.filter_eq_nil_iff]
  intro line hline
  simp [(h line hline).not_directive]

theorem filter_not_directives {lines : List String} (h : ∀ line ∈ lines, IsPlain line) :
    lines.filter (fun line => !startsWith "#" line) = lines := by
  rw [List.filter_eq_self]
  intro line hline
  rw [(h line hline).not_directive, Bool.not_false]

/-- A region between two directives with plain lines before it and in it. -/
theorem withoutRegion_eq {lead block rest : List String} {opening closing : String}
    (hlead : ∀ line ∈ lead, IsPlain line) (hblock : ∀ line ∈ block, IsPlain line)
    (hopening : startsWith "#if" opening = true)
    (hopening' : startsWith "#endif" opening = false)
    (hclosing : startsWith "#endif" closing = true) :
    withoutRegion (lead ++ opening :: (block ++ closing :: rest)) = lead ++ rest := by
  have hlead' : ∀ line ∈ lead, (!startsWith "#if" line) = true := by
    intro line hline
    rw [(hlead line hline).not_startsWith (by decide), Bool.not_false]
  have hblock' : ∀ line ∈ opening :: block, (!startsWith "#endif" line) = true := by
    rw [List.forall_mem_cons]
    refine ⟨by rw [hopening', Bool.not_false], fun line hline => ?_⟩
    rw [(hblock line hline).not_startsWith (by decide), Bool.not_false]
  rw [withoutRegion, List.takeWhile_append_of_pos hlead', List.dropWhile_append_of_pos hlead',
    List.takeWhile_cons_of_neg (by simp [hopening]),
    List.dropWhile_cons_of_neg (by simp [hopening]), ← List.cons_append,
    List.dropWhile_append_of_pos hblock', List.dropWhile_cons_of_neg (by simp [hclosing]),
    List.append_nil, List.tail_cons]

end Text

/-- Identifiers have no line breaks. -/
theorem Identifier.isSingleLine_of_isValid {s : String} (h : Identifier.isValid s = true) :
    Text.IsSingleLine s :=
  not_mem_of_isValid h (by decide)

/-- A conversion adds no line break. -/
theorem Naming.isSingleLine_convert (n : Naming) {name : String} (h : Text.IsSingleLine name) :
    Text.IsSingleLine (n.convert name) := by
  cases hn : n.isSupported with
  | false => rwa [convert_of_not_isSupported n hn]
  | true =>
    obtain ⟨-, htarget⟩ := Bool.and_eq_true_iff.1 hn
    rw [convert, hn, if_pos rfl, Casing.apply]
    rcases Casing.applyChars_cases n.target name.toList with hsame | ⟨hjoined, hvalid⟩
    · rwa [hsame, String.ofList_toList]
    · -- where the words are joined they make an identifier
      rw [hjoined]
      refine Identifier.isSingleLine_of_isValid ?_
      rw [Identifier.isValid, String.toList_ofList]
      exact hvalid htarget

/-! ### Texts of a descriptor -/

/-- The texts of a flag. -/
def Flag.texts (f : Flag) : List String :=
  f.name :: f.displayName.toList ++ f.accessorPrefix.toList ++ f.groups

/-- The texts of a group. -/
def Group.texts (g : Group) : List String := g.name :: g.accessorPrefix :: g.members

/-- All texts of a descriptor. -/
def Descriptor.texts (d : Descriptor) : List String :=
  [d.name, d.scope, d.fullName, d.accessorPrefix] ++ d.flags.flatMap Flag.texts ++
    d.groups.flatMap Group.texts

/-- A configuration that makes sense names identifiers. -/
theorem Options.isValid_of_fault?_eq_none {o : Options} (h : o.fault? = none) :
    Identifier.isValid o.receiver = true ∧
      ∀ symbol ∈ o.propertyGuard, Identifier.isValid symbol = true := by
  unfold fault? at h
  split_ifs at h with _ hreceiver
  refine ⟨by simpa using hreceiver, ?_⟩
  rintro symbol hsymbol
  rw [Option.mem_def.1 hsymbol] at h
  by_contra hvalid
  simp [hvalid] at h

/-- The texts of an accessor have no line breaks. -/
structure Accessor.IsSingleLine (a : Accessor) : Prop where
  name : Text.IsSingleLine a.name
  label : Text.IsSingleLine a.label
  members : ∀ m ∈ a.members, Text.IsSingleLine m

/-- The texts of a target have no line breaks. -/
structure Target.IsSingleLine (t : Target) : Prop where
  access : Text.IsSingleLine t.access
  fullName : Text.IsSingleLine t.fullName
  receiver : Text.IsSingleLine t.receiver

section Texts

variable {d : Descriptor} (h : ∀ s ∈ d.texts, Text.IsSingleLine s)
include h

theorem Flag.isSingleLine_of_mem {f : Flag} (hf : f ∈ d.flags) :
    ∀ s ∈ f.texts, Text.IsSingleLine s := by
  intro s hs
  have hmem : s ∈ d.flags.flatMap Flag.texts := List.mem_flatMap.2 ⟨f, hf, hs⟩
  exact h s (by simp [Descriptor.texts, hmem])

theorem Group.isSingleLine_of_mem {g : Group} (hg : g ∈ d.groups) :
    ∀ s ∈ g.texts, Text.IsSingleLine s := by
  intro s hs
  have hmem : s ∈ d.groups.flatMap Group.texts := List.mem_flatMap.2 ⟨g, hg, hs⟩
  exact h s (by simp [Descriptor.texts, hmem])

theorem Descriptor.isSingleLine_flagAccessor {f : Flag} (hf : f ∈ d.flags) :
    (d.flagAccessor f).IsSingleLine := by
  have htexts := Flag.isSingleLine_of_mem h hf
  have hname : Text.IsSingleLine f.name := htexts _ (by simp [Flag.texts])
  have hpre : Text.IsSingleLine (f.prefixOr d.accessorPrefix) := by
    cases hf' : f.accessorPrefix with
    | none => simpa [Flag.prefixOr, hf'] using h d.accessorPrefix (by simp [Descriptor.texts])
    | some s => simpa [Flag.prefixOr, hf'] using htexts s (by simp [Flag.texts, hf'])
  have hdisplay : Text.IsSingleLine f.accessorName := by
    cases hf' : f.displayName with
    | none => simpa [Flag.accessorName, hf'] using hname
    | some s => simpa [Flag.accessorName, hf'] using htexts s (by simp [Flag.texts, hf'])
  refine ⟨?_, hname, by simpa [flagAccessor] using hname⟩
  exact Text.isSingleLine_append.2 ⟨hpre, d.naming.isSingleLine_convert hdisplay⟩

theorem Descriptor.isSingleLine_groupAccessor {g : Group} (hg : g ∈ d.groups) :
    (d.groupAccessor g).IsSingleLine := by
  have htexts := Group.isSingleLine_of_mem h hg
  have hname : Text.IsSingleLine g.name := htexts _ (by simp [Group.texts])
  have hpre : Text.IsSingleLine g.accessorPrefix := htexts _ (by simp [Group.texts])
  refine ⟨?_, hname, fun m hm => htexts m (by simp [Group.texts, show m ∈ g.members from hm])⟩
  exact Text.isSingleLine_append.2 ⟨hpre, d.naming.isSingleLine_convert hname⟩

/-- The accessors of a descriptor without line breaks have none. -/
theorem Descriptor.isSingleLine_of_mem_accessors {a : Accessor} (ha : a ∈ d.accessors) :
    a.IsSingleLine := by
  rw [accessors, List.mem_append, List.mem_map, List.mem_map] at ha
  rcases ha with ⟨f, hf, rfl⟩ | ⟨g, hg, rfl⟩
  · exact isSingleLine_flagAccessor h (List.mem_filter.1 hf).1
  · exact isSingleLine_groupAccessor h (List.mem_filter.1 hg).1

/-- Nor has the target, if the receiver is an identifier. -/
theorem Descriptor.isSingleLine_target {o : Options}
    (hreceiver : Identifier.isValid o.receiver = true) : (d.target o).IsSingleLine := by
  refine ⟨?_, h _ (by simp [texts, target]), Identifier.isSingleLine_of_isValid hreceiver⟩
  simp only [target, access]
  split_ifs <;> simp [Text.IsSingleLine]

end Texts

/-! ### Lines of accessors -/

namespace Accessor

variable {t : Target} {a : Accessor}

theorem isSingleLine_summary (ha : a.IsSingleLine) (isFlags : Bool) :
    Text.IsSingleLine (a.summary isFlags) := by
  have hlabel : '\n' ∉ a.label.toList := ha.label
  unfold summary
  split <;> simp [hlabel, Text.IsSingleLine]

theorem isSingleLine_expression (ht : t.IsSingleLine) (ha : a.IsSingleLine) :
    Text.IsSingleLine (a.expression t) := by
  have hfullName : '\n' ∉ t.fullName.toList := ht.fullName
  have hreceiver : '\n' ∉ t.receiver.toList := ht.receiver
  have hmember : ∀ m ∈ a.members, '\n' ∉ (t.member m).toList := by
    intro m hm
    have hm' : '\n' ∉ m.toList := ha.members m hm
    simp [Target.member, hfullName, hm']
  unfold expression
  split_ifs
  · refine Text.not_mem_intercalate (by simp) ?_
    intro s hs
    obtain ⟨m, hm, rfl⟩ := List.mem_map.1 hs
    simp [bitTest, hreceiver, hmember m hm]
  · split
    · next single _ hsingle =>
      have hm := hmember single (by simp [hsingle])
      simp [Text.IsSingleLine, hreceiver, hm]
    · have halternatives :
          Text.IsSingleLine (String.intercalate " or " (a.members.map t.member)) := by
        refine Text.not_mem_intercalate (by simp) ?_
        intro s hs
        obtain ⟨m, hm, rfl⟩ := List.mem_map.1 hs
        exact hmember m hm
      rw [Text.isSingleLine_append, Text.isSingleLine_append]
      exact ⟨⟨ht.receiver, by simp [Text.IsSingleLine]⟩, halternatives⟩

/-- No line of a method is a directive. -/
theorem isPlain_methodLinesOf (ht : t.IsSingleLine) (ha : a.IsSingleLine) :
    ∀ line ∈ methodLinesOf t a, Text.IsPlain line := by
  have hsummary : '\n' ∉ (a.summary t.isFlags).toList := isSingleLine_summary ha t.isFlags
  have hexpression : '\n' ∉ (a.expression t).toList := isSingleLine_expression ht ha
  have haccess : '\n' ∉ t.access.toList := ht.access
  have hfullName : '\n' ∉ t.fullName.toList := ht.fullName
  have hreceiver : '\n' ∉ t.receiver.toList := ht.receiver
  have hname : '\n' ∉ a.name.toList := ha.name
  intro line hline
  simp only [methodLinesOf, List.mem_cons, List.not_mem_nil, or_false] at hline
  rcases hline with rfl | rfl | rfl | rfl | rfl | rfl | rfl | rfl <;>
    constructor <;> simp [Text.IsSingleLine, Text.startsWith, List.isPrefixOf, *]

/-- No line of a property is a directive. -/
theorem isPlain_propertyLinesOf (ht : t.IsSingleLine) (ha : a.IsSingleLine) :
    ∀ line ∈ propertyLinesOf t a, Text.IsPlain line := by
  have hsummary : '\n' ∉ (a.summary t.isFlags).toList := isSingleLine_summary ha t.isFlags
  have hexpression : '\n' ∉ (a.expression t).toList := isSingleLine_expression ht ha
  have haccess : '\n' ∉ t.access.toList := ht.access
  have hname : '\n' ∉ a.name.toList := ha.name
  intro line hline
  simp only [propertyLinesOf, List.mem_cons, List.not_mem_nil, or_false] at hline
  rcases hline with rfl | rfl | rfl | rfl | rfl | rfl <;>
    constructor <;> simp [Text.IsSingleLine, Text.startsWith, List.isPrefixOf, *]

end Accessor

/-! ### Lines of sources -/

namespace Descriptor

variable {d : Descriptor} {o : Options} {symbol : String}

/-- The lines before the properties. -/
def lead (d : Descriptor) (o : Options) : List String :=
  d.headerLines ++ [d.access ++ " static partial class " ++ d.extensionName ++ " \x7b"] ++
    (if o.methods then Accessor.methodLines (d.target o) d.accessors else [])

/-- The lines of the block with the properties. -/
def block (d : Descriptor) (o : Options) : List String :=
  ["    extension(" ++ d.fullName ++ " " ++ o.receiver ++ ") \x7b"] ++
    d.accessors.flatMap (Accessor.propertyLinesOf (d.target o)) ++ ["    \x7d"]

/-- With a guard the block stands between two directives. -/
theorem lines_of_guard (hproperties : o.properties = true)
    (hguard : o.propertyGuard = some symbol) :
    d.lines o = d.lead o ++ [""] ++
      ("#if " ++ symbol) :: ("" :: d.block o ++ [""] ++ "#endif" :: ["\x7d", ""]) := by
  simp [lines, bodyLines, Accessor.propertyLines, lead, block, hproperties, hguard,
    Accessor.guardOpening, Accessor.guardClosing, target]

theorem lines_of_no_guard (hproperties : o.properties = true) (hguard : o.propertyGuard = none) :
    d.lines o = d.lead o ++ "" :: d.block o ++ ["\x7d", ""] := by
  simp [lines, bodyLines, Accessor.propertyLines, lead, block, hproperties, hguard,
    Accessor.guardOpening, Accessor.guardClosing, target]

theorem lines_of_no_properties (hproperties : o.properties = false) :
    d.lines o = d.lead o ++ ["\x7d", ""] := by
  simp [lines, bodyLines, lead, hproperties]

section Plain

variable (h : ∀ s ∈ d.texts, Text.IsSingleLine s)
  (hreceiver : Identifier.isValid o.receiver = true)
include h hreceiver

/-- No line before the properties is a directive. -/
theorem isPlain_lead : ∀ line ∈ d.lead o, Text.IsPlain line := by
  have hscope : '\n' ∉ d.scope.toList := h _ (by simp [texts])
  have hname : '\n' ∉ d.name.toList := h _ (by simp [texts])
  have hheader : ∀ line ∈ d.headerLines, Text.IsPlain line := by
    intro line hline
    simp only [headerLines, List.mem_append, List.mem_cons, List.not_mem_nil, or_false,
      List.mem_ite_nil_left] at hline
    rcases hline with (rfl | rfl | rfl | rfl | rfl) | ⟨-, rfl | rfl⟩ <;>
      constructor <;> simp [Text.IsSingleLine, Text.startsWith, List.isPrefixOf, hscope]
  have hclass : Text.IsPlain
      (d.access ++ " static partial class " ++ d.extensionName ++ " \x7b") := by
    unfold access extensionName
    split_ifs <;>
      constructor <;> simp [Text.IsSingleLine, Text.startsWith, List.isPrefixOf, hname]
  have hmethods : ∀ line ∈ Accessor.methodLines (d.target o) d.accessors, Text.IsPlain line := by
    intro line hline
    obtain ⟨a, ha, hline⟩ := List.mem_flatMap.1 hline
    exact Accessor.isPlain_methodLinesOf (isSingleLine_target h hreceiver)
      (isSingleLine_of_mem_accessors h ha) line hline
  rw [lead, List.forall_mem_append, List.forall_mem_append, List.forall_mem_singleton]
  refine ⟨⟨hheader, hclass⟩, ?_⟩
  split_ifs
  · exact hmethods
  · exact List.forall_mem_nil _

/-- No line of the block with the properties is a directive. -/
theorem isPlain_block : ∀ line ∈ d.block o, Text.IsPlain line := by
  have hfullName : '\n' ∉ d.fullName.toList := (isSingleLine_target h hreceiver).fullName
  have hreceiver' : '\n' ∉ o.receiver.toList := (isSingleLine_target h hreceiver).receiver
  have hproperties : ∀ line ∈ d.accessors.flatMap (Accessor.propertyLinesOf (d.target o)),
      Text.IsPlain line := by
    intro line hline
    obtain ⟨a, ha, hline⟩ := List.mem_flatMap.1 hline
    exact Accessor.isPlain_propertyLinesOf (isSingleLine_target h hreceiver)
      (isSingleLine_of_mem_accessors h ha) line hline
  rw [block, List.forall_mem_append, List.forall_mem_append, List.forall_mem_singleton,
    List.forall_mem_singleton]
  refine ⟨⟨?_, hproperties⟩, ?_⟩
  · constructor <;>
      simp [Text.IsSingleLine, Text.startsWith, List.isPrefixOf, hfullName, hreceiver']
  · constructor <;> simp [Text.IsSingleLine, Text.startsWith, List.isPrefixOf]

/-- The lines of a source have no line breaks in them. -/
theorem isSingleLine_of_mem_lines
    (hguard : ∀ symbol ∈ o.propertyGuard, Identifier.isValid symbol = true) :
    ∀ line ∈ d.lines o, Text.IsSingleLine line := by
  have hlead : ∀ line ∈ d.lead o, Text.IsSingleLine line := fun line hline =>
    (isPlain_lead h hreceiver line hline).isSingleLine
  have hblock : ∀ line ∈ d.block o, Text.IsSingleLine line := fun line hline =>
    (isPlain_block h hreceiver line hline).isSingleLine
  have hblank : Text.IsSingleLine "" := by decide
  have hend : ∀ line ∈ ["\x7d", ""], Text.IsSingleLine line := by decide
  cases hproperties : o.properties with
  | false =>
    rw [lines_of_no_properties hproperties, List.forall_mem_append]
    exact ⟨hlead, hend⟩
  | true =>
    cases hsymbol : o.propertyGuard with
    | none =>
      rw [lines_of_no_guard hproperties hsymbol, List.forall_mem_append, List.forall_mem_append,
        List.forall_mem_cons]
      exact ⟨⟨hlead, hblank, hblock⟩, hend⟩
    | some symbol =>
      have hopening : Text.IsSingleLine ("#if " ++ symbol) :=
        Text.isSingleLine_append.2
          ⟨by decide, Identifier.isSingleLine_of_isValid (hguard symbol hsymbol)⟩
      have hclosing : Text.IsSingleLine "#endif" := by decide
      have hregion : ∀ line ∈ "" :: d.block o ++ [""], Text.IsSingleLine line := by
        rw [List.forall_mem_append, List.forall_mem_cons, List.forall_mem_singleton]
        exact ⟨⟨hblank, hblock⟩, hblank⟩
      rw [lines_of_guard hproperties hsymbol, List.forall_mem_append, List.forall_mem_append,
        List.forall_mem_singleton, List.forall_mem_cons, List.forall_mem_append,
        List.forall_mem_cons]
      exact ⟨⟨hlead, hblank⟩, hopening, hregion, hclosing, hend⟩

/-- The lines of a source are found again in its text. -/
theorem lines_text_of_generate {u : SourceUnit}
    (hguard : ∀ symbol ∈ o.propertyGuard, Identifier.isValid symbol = true)
    (hu : d.generate o = some u) : Text.lines u.text = d.lines o := by
  rw [text_of_generate hu]
  exact Text.lines_intercalate (by simp [lines]) (isSingleLine_of_mem_lines h hreceiver hguard)

/-- No line of a guarded source but the two directives is one. -/
theorem isPlain_parts :
    (∀ line ∈ d.lead o ++ [""], Text.IsPlain line) ∧
      (∀ line ∈ "" :: d.block o ++ [""], Text.IsPlain line) ∧
      ∀ line ∈ ["\x7d", ""], Text.IsPlain line := by
  have hblank : Text.IsPlain "" := ⟨by decide, by decide⟩
  have hbrace : Text.IsPlain "\x7d" := ⟨by decide, by decide⟩
  refine ⟨?_, ?_, ?_⟩
  · rw [List.forall_mem_append, List.forall_mem_singleton]
    exact ⟨isPlain_lead h hreceiver, hblank⟩
  · rw [List.forall_mem_append, List.forall_mem_cons, List.forall_mem_singleton]
    exact ⟨⟨hblank, isPlain_block h hreceiver⟩, hblank⟩
  · rw [List.forall_mem_cons, List.forall_mem_singleton]
    exact ⟨hbrace, hblank⟩

section Guarded

variable (hproperties : o.properties = true) (hguard : o.propertyGuard = some symbol)
include hproperties hguard

theorem filter_directives_lines :
    (d.lines o).filter (Text.startsWith "#") = ["#if " ++ symbol, "#endif"] := by
  obtain ⟨hlead, hregion, hend⟩ := isPlain_parts h hreceiver
  have hopening : Text.startsWith "#" ("#if " ++ symbol) = true := by
    simp [Text.startsWith, List.isPrefixOf]
  rw [lines_of_guard hproperties hguard, List.filter_append, Text.filter_directives hlead,
    List.filter_cons_of_pos hopening, List.filter_append, Text.filter_directives hregion,
    List.filter_cons_of_pos (by decide), Text.filter_directives hend, List.nil_append,
    List.nil_append]

/-- Without the directives the lines are those without a guard. -/
theorem nonblank_filter_lines :
    Text.nonblank ((d.lines o).filter fun line => !Text.startsWith "#" line) =
      Text.nonblank (d.lines { o with propertyGuard := none }) := by
  obtain ⟨hlead, hregion, hend⟩ := isPlain_parts h hreceiver
  have hopening : Text.startsWith "#" ("#if " ++ symbol) = true := by
    simp [Text.startsWith, List.isPrefixOf]
  -- neither the lines before the region nor those in it depend on the guard
  have hunguarded : d.lines { o with propertyGuard := none } =
      d.lead o ++ "" :: d.block o ++ ["\x7d", ""] :=
    lines_of_no_guard hproperties rfl
  rw [hunguarded, lines_of_guard hproperties hguard, List.filter_append,
    Text.filter_not_directives hlead, List.filter_cons_of_neg (by simp [hopening]),
    List.filter_append, Text.filter_not_directives hregion,
    List.filter_cons_of_neg (by decide), Text.filter_not_directives hend]
  simp

/-- Without the region the lines are those without properties. -/
theorem nonblank_withoutRegion_lines :
    Text.nonblank (Text.withoutRegion (d.lines o)) =
      Text.nonblank (d.lines { o with properties := false }) := by
  obtain ⟨hlead, hregion, -⟩ := isPlain_parts h hreceiver
  have hmethods : d.lines { o with properties := false } = d.lead o ++ ["\x7d", ""] :=
    lines_of_no_properties rfl
  have hcut : Text.withoutRegion (d.lines o) = d.lead o ++ [""] ++ ["\x7d", ""] := by
    rw [lines_of_guard hproperties hguard]
    exact Text.withoutRegion_eq hlead hregion (by simp [Text.startsWith, List.isPrefixOf])
      (by simp [Text.startsWith, List.isPrefixOf]) (by decide)
  rw [hcut, hmethods]
  simp

end Guarded

end Plain

/-- **A guard cuts cleanly.**  A guarded source has two directives, one that opens the region and
behind it one that closes it.  Up to blank lines it is the source without a guard when these two are
left out, and the source without properties when the region is left out with them. -/
theorem guard_cuts_cleanly (h : ∀ s ∈ d.texts, Text.IsSingleLine s) (haccessors : d.accessors ≠ [])
    (ho : o.fault? = none) (hproperties : o.properties = true)
    (hguard : o.propertyGuard = some symbol) :
    ∃ guarded unguarded, d.generate o = some guarded ∧
      d.generate { o with propertyGuard := none } = some unguarded ∧
      (Text.lines guarded.text).filter (Text.startsWith "#") = ["#if " ++ symbol, "#endif"] ∧
      Text.nonblank ((Text.lines guarded.text).filter fun line => !Text.startsWith "#" line) =
        Text.nonblank (Text.lines unguarded.text) ∧
      (o.methods = true → ∃ methods, d.generate { o with properties := false } = some methods ∧
        Text.nonblank (Text.withoutRegion (Text.lines guarded.text)) =
          Text.nonblank (Text.lines methods.text)) := by
  obtain ⟨hreceiver, hvalid⟩ := Options.isValid_of_fault?_eq_none ho
  obtain ⟨guarded, hguarded⟩ := exists_generate haccessors (.inr hproperties)
  obtain ⟨unguarded, hunguarded⟩ :=
    exists_generate (o := { o with propertyGuard := none }) haccessors (.inr hproperties)
  have hlines : Text.lines guarded.text = d.lines o :=
    lines_text_of_generate h hreceiver hvalid hguarded
  have hunguardedLines : Text.lines unguarded.text = d.lines { o with propertyGuard := none } :=
    lines_text_of_generate (o := { o with propertyGuard := none }) h hreceiver (by simp) hunguarded
  refine ⟨guarded, unguarded, hguarded, hunguarded, ?_, ?_, fun hmethods => ?_⟩
  · rw [hlines, filter_directives_lines h hreceiver hproperties hguard]
  · rw [hlines, hunguardedLines, nonblank_filter_lines h hreceiver hproperties hguard]
  · obtain ⟨methods, hm⟩ :=
      exists_generate (o := { o with properties := false }) haccessors (.inl hmethods)
    have hmethodsLines : Text.lines methods.text = d.lines { o with properties := false } :=
      lines_text_of_generate (o := { o with properties := false }) h hreceiver hvalid hm
    refine ⟨methods, hm, ?_⟩
    rw [hlines, hmethodsLines, nonblank_withoutRegion_lines h hreceiver hproperties hguard]

/-- Members with names and prefixes of their own, an excluded one, and a group of two. -/
theorem guard_cuts_cleanly_grouped :
    let d : Descriptor :=
      { name := "E", scope := "N", fullName := "N.E", accessibility := .internal, isFlags := true
        accessorPrefix := "Has", naming := .default
        flags :=
          [{ name := "Read", groups := ["Disk"] },
           { name := "Write", displayName := some "Change", accessorPrefix := some "Can"
             groups := ["Disk"] },
           { name := "Old", isExcluded := true }]
        groups := [{ name := "Disk", accessorPrefix := "In", members := ["Read", "Write"] }] }
    let o : Options := { propertyGuard := some "PREVIEW", receiver := "rights" }
    (∀ s ∈ d.texts, Text.IsSingleLine s) ∧
      d.accessors.map Accessor.name = ["HasRead", "CanChange", "InDisk"] ∧ o.fault? = none ∧
      ∃ guarded unguarded, d.generate o = some guarded ∧
        d.generate { o with propertyGuard := none } = some unguarded ∧
        (Text.lines guarded.text).filter (Text.startsWith "#") = ["#if PREVIEW", "#endif"] ∧
        Text.nonblank ((Text.lines guarded.text).filter fun line => !Text.startsWith "#" line) =
          Text.nonblank (Text.lines unguarded.text) ∧
        ∃ methods, d.generate { o with properties := false } = some methods ∧
          Text.nonblank (Text.withoutRegion (Text.lines guarded.text)) =
            Text.nonblank (Text.lines methods.text) := by
  intro d o
  have htexts : ∀ s ∈ d.texts, Text.IsSingleLine s := by decide
  have hnames : d.accessors.map Accessor.name = ["HasRead", "CanChange", "InDisk"] := by decide
  have haccessors : d.accessors ≠ [] := by simp [accessors, d]
  have ho : o.fault? = none := by decide
  obtain ⟨guarded, unguarded, hguarded, hunguarded, hdirectives, hwithout, hregion⟩ :=
    guard_cuts_cleanly (o := o) htexts haccessors ho rfl rfl
  exact ⟨htexts, hnames, ho, guarded, unguarded, hguarded, hunguarded, hdirectives, hwithout,
    hregion rfl⟩

end Descriptor

end EnumAccessors

import EnumAccessors.Proofs.Conversion
import EnumAccessors.Proofs.Lowering

/-!
# Names of accessors

The name of an accessor is a prefix followed by a converted name (`NameParts.render`).  The parts
are read off what is written on a type (`EnumType.nameParts`).

* `EnumType.isValid_accessor_names`: every accessor is named by an identifier, with `Get` before
  it or without, as long as the members are.
* `EnumType.nodup_accessor_names`: the names are distinct exactly if no two parts clash
  (`NameParts.Clash`).  Parts in ASCII that differ in more than letter case and separators do not.
* `EnumType.accessor_names_clash`: distinct members and a silent analysis are not enough.
-/

namespace EnumAccessors

/-! ### Texts in two parts -/

theorem eq_append_ofList {s t : String} {cs : List Char} (h : s.toList = t.toList ++ cs) :
    s = t ++ String.ofList cs := by
  rw [← String.toList_inj, h, String.toList_append, String.toList_ofList]

theorem eq_ofList_append {s t : String} {cs : List Char} (h : s.toList = cs ++ t.toList) :
    s = String.ofList cs ++ t := by
  rw [← String.toList_inj, h, String.toList_append, String.toList_ofList]

/-! ### Parts -/

/-- What the name of an accessor is put together from. -/
structure NameParts where
  accessorPrefix : String
  /-- The name that is converted. -/
  base : String
  deriving DecidableEq

namespace NameParts

variable {n : Naming} {p q : NameParts}

/-- The name of the accessor. -/
def render (n : Naming) (p : NameParts) : String := p.accessorPrefix ++ n.convert p.base

/-- The parts without letter case and separators. -/
def skeleton (p : NameParts) : List Char :=
  Words.skeleton (p.accessorPrefix.toList ++ p.base.toList)

/-- Two accessors get one name: the prefix of one is that of the other with some text behind it,
maybe none, and the converted name of the other is that text with the converted name of the one
behind it. -/
def Clash (n : Naming) (p q : NameParts) : Prop :=
  ∃ text : String,
    (q.accessorPrefix = p.accessorPrefix ++ text ∧ n.convert p.base = text ++ n.convert q.base) ∨
    (p.accessorPrefix = q.accessorPrefix ++ text ∧ n.convert q.base = text ++ n.convert p.base)

/-- Parts that are identifiers make one. -/
theorem isValid_render (hpre : Identifier.isValid p.accessorPrefix = true)
    (hbase : Identifier.isValid p.base = true) : Identifier.isValid (p.render n) = true :=
  Identifier.isValid_append hpre (n.isValid_convert hbase)

/-- Accessors get one name exactly if their parts clash. -/
theorem render_eq_iff_clash : p.render n = q.render n ↔ p.Clash n q := by
  constructor
  · intro h
    have hchars : p.accessorPrefix.toList ++ (n.convert p.base).toList =
        q.accessorPrefix.toList ++ (n.convert q.base).toList := by
      rw [← String.toList_append, ← String.toList_append]
      exact congrArg String.toList h
    -- one prefix begins with the other, and what it has in addition is the text
    rcases List.append_eq_append_iff.1 hchars with ⟨cs, hpre, hname⟩ | ⟨cs, hpre, hname⟩
    · exact ⟨String.ofList cs, .inl ⟨eq_append_ofList hpre, eq_ofList_append hname⟩⟩
    · exact ⟨String.ofList cs, .inr ⟨eq_append_ofList hpre, eq_ofList_append hname⟩⟩
  · rintro ⟨text, ⟨hpre, hname⟩ | ⟨hpre, hname⟩⟩
    · rw [render, render, hpre, hname, String.append_assoc]
    · rw [render, render, hpre, hname, String.append_assoc]

/-- The name of an accessor keeps the skeleton of its parts. -/
theorem skeleton_render (h : ∀ c ∈ p.base.toList, Unicode.isAscii c = true) :
    Words.skeleton (p.render n).toList = p.skeleton := by
  rw [render, String.toList_append, Words.skeleton_append, n.skeleton_convert h, skeleton,
    Words.skeleton_append]

end NameParts

namespace EnumType

/-- The parts of the names of all accessors, in the order of the accessors: for each member that
is not excluded its prefix or the type's, and its display name or its name; for each declared
group with such members the prefix of its first declaration, and its name. -/
def nameParts (e : EnumType) : List NameParts :=
  e.included.map (fun m =>
    ⟨(m.accessorPrefix.bind fun a => a.identifier? 0).getD e.chosenPrefix,
      (m.displayName.bind fun a => a.identifier? 0).getD m.name⟩) ++
  ((GroupDeclaration.declaredNames e.groups).filter fun g => e.membersOf g ≠ []).map fun g =>
    ⟨GroupDeclaration.firstPrefix e.groups g, g⟩

variable {e : EnumType} {project : Option Naming} {d : Descriptor}

theorem map_name_readAccessors :
    (e.readAccessors project).map Accessor.name =
      e.nameParts.map (NameParts.render (e.chosenNaming project)) := by
  rw [readAccessors, nameParts, List.map_append, List.map_append, List.map_map, List.map_map,
    List.map_map, List.map_map]
  rfl

/-- The names of the accessors of an analyzed type are read off what is written on it. -/
theorem map_name_accessors (h : (e.analyze project).value = some d) :
    d.accessors.map Accessor.name =
      e.nameParts.map (NameParts.render (e.chosenNaming project)) := by
  obtain ⟨-, rfl⟩ := value_analyze_eq_some_iff.1 h
  rw [accessors_describe, map_name_readAccessors]

/-! ### Identifiers -/

/-- What is written on a type is never put into a name unless it is an identifier. -/
theorem isValid_of_mem_nameParts (hnames : ∀ m ∈ e.members, Identifier.isValid m.name = true)
    {p : NameParts} (hp : p ∈ e.nameParts) :
    Identifier.isValid p.accessorPrefix = true ∧ Identifier.isValid p.base = true := by
  rcases List.mem_append.1 hp with hp | hp
  · obtain ⟨m, hm, rfl⟩ := List.mem_map.1 hp
    have hname : Identifier.isValid m.name = true := hnames m (List.mem_filter.1 hm).1
    exact ⟨Attribute.isValid_bind_getD _ 0 e.isValid_chosenPrefix,
      Attribute.isValid_bind_getD _ 0 hname⟩
  · obtain ⟨g, hg, rfl⟩ := List.mem_map.1 hp
    exact ⟨GroupDeclaration.isValid_firstPrefix e.groups g,
      GroupDeclaration.isValid_of_mem_declaredNames (List.mem_filter.1 hg).1⟩

theorem isValid_name_of_mem_accessors
    (hnames : ∀ m ∈ e.members, Identifier.isValid m.name = true)
    (h : (e.analyze project).value = some d) {a : Accessor} (ha : a ∈ d.accessors) :
    Identifier.isValid a.name = true := by
  have hname : a.name ∈ d.accessors.map Accessor.name := List.mem_map_of_mem ha
  rw [map_name_accessors h] at hname
  obtain ⟨p, hp, hrender⟩ := List.mem_map.1 hname
  obtain ⟨hpre, hbase⟩ := isValid_of_mem_nameParts hnames hp
  rw [← hrender]
  exact NameParts.isValid_render hpre hbase

/-- **Accessors are named by identifiers**, those of methods included, whatever is written on the
type.  Conversion keeps identifiers, and leaves all names alone if a side of the preference needs
separators or is unknown. -/
theorem isValid_accessor_names (hnames : ∀ m ∈ e.members, Identifier.isValid m.name = true) :
    (∀ d, (e.analyze project).value = some d → ∀ a ∈ d.accessors,
      Identifier.isValid a.name = true ∧ Identifier.isValid ("Get" ++ a.name) = true) ∧
    ∀ (n : Naming) (name : String),
      (Identifier.isValid name = true → Identifier.isValid (n.convert name) = true) ∧
      (n.source ∈ [.kebab, .spacedCamel, .train, .unknown] ∨
        n.target ∈ [.kebab, .spacedCamel, .train, .unknown] → n.convert name = name) := by
  refine ⟨fun d h a ha => ?_, fun n name => ⟨n.isValid_convert, fun hside => ?_⟩⟩
  · have hname : Identifier.isValid a.name = true := isValid_name_of_mem_accessors hnames h ha
    exact ⟨hname, Identifier.isValid_append (by decide) hname⟩
  · exact n.convert_of_not_isSupported (n.isSupported_eq_false_iff.2 hside) name

/-- Names that have no words or whose words make no identifier, a name that gets longer in upper
case, and an excluded member. -/
theorem isValid_accessor_names_unconverted :
    let e : EnumType :=
      { name := "E", fullName := "E", accessibility := .public
        naming := some { args := [.text "SNAKE", .text "PASCAL"] }
        accessorPrefix := some { args := [.text "not one"] }
        groups := [{ args := [.text "_2", .text "In"] }]
        members :=
          [{ name := "__" }, { name := "_1", groups := [{ args := [.text "_2"] }] },
           { name := "ßa_b" }, { name := "out", exclude := some {} }] }
    (∀ m ∈ e.members, Identifier.isValid m.name = true) ∧
      ∃ d, (e.analyze none).value = some d ∧
        d.accessors.map Accessor.name = ["Has__", "Has_1", "HasSSaB", "In_2"] ∧
        ∀ a ∈ d.accessors,
          Identifier.isValid a.name = true ∧ Identifier.isValid ("Get" ++ a.name) = true := by
  intro e
  have hnames : ∀ m ∈ e.members, Identifier.isValid m.name = true := by decide
  have h : (e.analyze none).value = some (e.describe none).value := by decide
  exact ⟨hnames, _, h, by decide, (isValid_accessor_names hnames).1 _ h⟩

/-! ### Distinct names -/

theorem nodup_map_render_iff {n : Naming} {parts : List NameParts} :
    (parts.map (NameParts.render n)).Nodup ↔ parts.Pairwise fun p q => ¬ p.Clash n q := by
  rw [List.Nodup, List.pairwise_map]
  simp only [ne_eq, NameParts.render_eq_iff_clash]

/-- Names that differ in more than letter case and separators stay different. -/
theorem nodup_map_render_of_skeleton {n : Naming} {parts : List NameParts}
    (hascii : ∀ p ∈ parts, p.base.toList.all Unicode.isAscii = true)
    (h : (parts.map NameParts.skeleton).Nodup) : (parts.map (NameParts.render n)).Nodup := by
  have hskeletons : (parts.map (NameParts.render n)).map (fun s => Words.skeleton s.toList) =
      parts.map NameParts.skeleton := by
    rw [List.map_map]
    exact List.map_congr_left fun p hp =>
      NameParts.skeleton_render (List.all_eq_true.1 (hascii p hp))
  rw [← hskeletons] at h
  exact List.Pairwise.of_map _ (fun s t hne heq => hne (by rw [heq])) h

/-- **The names of accessors are distinct exactly if no two clash.**  In particular they are if
the parts are in ASCII and differ in more than letter case and separators. -/
theorem nodup_accessor_names (h : (e.analyze project).value = some d) :
    ((d.accessors.map Accessor.name).Nodup ↔
      e.nameParts.Pairwise fun p q => ¬ p.Clash (e.chosenNaming project) q) ∧
    ((∀ p ∈ e.nameParts, p.base.toList.all Unicode.isAscii = true) →
      (e.nameParts.map NameParts.skeleton).Nodup → (d.accessors.map Accessor.name).Nodup) := by
  rw [map_name_accessors h]
  exact ⟨nodup_map_render_iff, nodup_map_render_of_skeleton⟩

/-- Prefixes of the type, of a member and of a group, and a display name. -/
theorem nodup_accessor_names_file :
    let e : EnumType :=
      { name := "F", fullName := "F", accessibility := .public
        naming := some { args := [.text "SNAKE", .text "PASCAL"] }
        accessorPrefix := some { args := [.text "Can"] }
        groups := [{ args := [.text "disk", .text "In"] }]
        members :=
          [{ name := "read", groups := [{ args := [.text "disk"] }] },
           { name := "disk", accessorPrefix := some { args := [.text "CanRead"] } },
           { name := "mode_2", displayName := some { args := [.text "write_all"] } }] }
    ∃ d, (e.analyze none).value = some d ∧
      d.accessors.map Accessor.name = ["CanRead", "CanReadDisk", "CanWriteAll", "InDisk"] ∧
      (d.accessors.map Accessor.name).Nodup ∧
      e.nameParts.Pairwise fun p q => ¬ p.Clash (e.chosenNaming none) q := by
  intro e
  have h : (e.analyze none).value = some (e.describe none).value := by decide
  have hascii : ∀ p ∈ e.nameParts, p.base.toList.all Unicode.isAscii = true := by decide
  have hskeletons : (e.nameParts.map NameParts.skeleton).Nodup := by decide
  have hnodup := (nodup_accessor_names h).2 hascii hskeletons
  exact ⟨_, h, by decide, hnodup, (nodup_accessor_names h).1.1 hnodup⟩

/-- Five members and a group share three names, although the members are distinct and the analysis
is silent: two names differ only in letter case, a prefix takes in the beginning of a name, and a
group has the prefix of the members. -/
theorem accessor_names_clash :
    let e : EnumType :=
      { name := "E", fullName := "E", accessibility := .public
        naming := some { args := [.text "PASCAL", .text "PASCAL"] }
        groups := [{ args := [.text "G", .text "Has"] }]
        members :=
          [{ name := "AB", groups := [{ args := [.text "G"] }] }, { name := "Ab" },
           { name := "aB" }, { name := "B", accessorPrefix := some { args := [.text "HasA"] } },
           { name := "G" }] }
    (e.members.map Member.name).Nodup ∧ (e.analyze none).diagnostics = [] ∧
      ∃ d, (e.analyze none).value = some d ∧
        d.accessors.map Accessor.name =
          ["HasAb", "HasAb", "HasAB", "HasAB", "HasG", "HasG"] ∧
        ¬ (d.accessors.map Accessor.name).Nodup := by
  intro e
  have h : (e.analyze none).value = some (e.describe none).value := by decide
  exact ⟨by decide, by decide, _, h, by decide, by decide⟩

end EnumType

end EnumAccessors

import EnumAccessors.Metadata.Format
import EnumAccessors.Proofs.Json.Outlines

/-!
# Decoding what was written

A decoder *reads back* what a writer writes (`Json.Decoder.ReadsBack`).  Single values and lists
come first; a record is read back if its fields are
(`Json.RecordFormat.decode_object`), which is told one field at a time
(`Json.RecordFormat.Reads`): a field that is left out reads like one that holds what the blank
record holds.
-/

namespace EnumAccessors

namespace Json

variable {α : Type}

/-! ### Single values and lists -/

namespace Decoder

variable {d : Decoder α} {write : α → Json}

/-- A decoder reads back what is written. -/
def ReadsBack (d : Decoder α) (write : α → Json) : Prop :=
  ∀ a, d (write a).outline = .ok a

theorem readsBack_bool : Decoder.bool.ReadsBack .bool := fun _ => rfl

theorem readsBack_text : Decoder.text.ReadsBack .text := fun _ => rfl

theorem readsBack_count : Decoder.count.ReadsBack fun n => .int n.toNat := by
  intro n
  simp [count, outline]

theorem mapM_outline (h : d.ReadsBack write) (values : List α) :
    (values.map fun a => (write a).outline).mapM d = .ok values := by
  induction values with
  | nil => rfl
  | cons a rest ih =>
    rw [List.map_cons, List.mapM_cons, h a, ih]
    rfl

theorem ReadsBack.list (h : d.ReadsBack write) :
    (Decoder.list d).ReadsBack fun values => .array (values.map write) := by
  intro values
  have hmap := mapM_outline h values
  simp only [outline, outlineOfItems_eq_map, List.map_map, Decoder.list, Function.comp_def]
  rw [hmap]
  rfl

/-- What is written as something else than null is read back where null is allowed. -/
theorem ReadsBack.optional (h : d.ReadsBack write) {a : α} (hnull : (write a).outline ≠ .null) :
    Decoder.optional d (write a).outline = .ok (some a) := by
  unfold Decoder.optional
  split
  · contradiction
  · rw [h a]
    rfl

end Decoder

/-! ### The names of written fields -/

theorem map_fst_optionalField (name : String) (write : α → Json) (value : Option α) :
    ((optionalField name write value).map Prod.fst).Sublist [name] := by
  cases value with
  | none => exact List.nil_sublist _
  | some a => exact List.Sublist.refl _

theorem map_fst_listField (name : String) (write : α → Json) (values : List α) :
    ((listField name write values).map Prod.fst).Sublist [name] := by
  cases values with
  | nil => exact List.nil_sublist _
  | cons a rest => exact List.Sublist.refl _

/-! ### Records -/

namespace RecordFormat

variable {ρ : Type} (format : RecordFormat ρ)

/-- A written field read into a record. -/
def readField (r : ρ) (f : String × Json) : Decoded ρ :=
  match format.fields.find? fun g => g.name == f.1 with
  | some g => g.read f.2.outline r
  | none => .ok r

/-- Written fields, named by some of the names in their order, are read into a record. -/
structure Reads (names : List String) (fields : List (String × Json)) (r : ρ) : Prop where
  names : (fields.map Prod.fst).Sublist names
  fields : fields.foldlM format.readField format.blank = .ok r

/-- Fields of different names, all known, are read one after another. -/
theorem readFields_outline {fields : List (String × Json)} {seen : List String} {r r' : ρ}
    (hnodup : (fields.map Prod.fst).Nodup) (hseen : ∀ name ∈ fields.map Prod.fst, name ∉ seen)
    (hknown : ∀ name ∈ fields.map Prod.fst, name ∈ format.fields.map Field.name)
    (h : fields.foldlM format.readField r = .ok r') :
    format.readFields seen r (outlineOfFields fields) =
      .ok (r', (fields.map Prod.fst).reverse ++ seen) := by
  induction fields generalizing seen r with
  | nil =>
    obtain rfl : r = r' := Except.ok.inj h
    rfl
  | cons f fields ih =>
    obtain ⟨name, value⟩ := f
    simp only [List.map_cons, List.nodup_cons, List.forall_mem_cons] at hnodup hseen hknown
    obtain ⟨g, hg, hname⟩ := List.mem_map.1 hknown.1
    obtain ⟨g', hg'⟩ : ∃ g', format.fields.find? (fun g => g.name == name) = some g' :=
      Option.isSome_iff_exists.1 (List.find?_isSome.2 ⟨g, hg, by simp [hname]⟩)
    simp only [List.foldlM_cons, readField, hg'] at h
    -- the field itself, then the others behind it
    cases hread : g'.read value.outline r with
    | error e =>
      rw [hread] at h
      cases h
    | ok next =>
      rw [hread] at h
      have hfresh : ∀ other ∈ fields.map Prod.fst, other ∉ name :: seen := by
        intro other hother
        rw [List.mem_cons, not_or]
        exact ⟨fun heq => hnodup.1 (heq ▸ hother), hseen.2 other hother⟩
      have hcontains : seen.contains name = false := by simpa using hseen.1
      have hnext := ih hnodup.2 hfresh hknown.2 h
      simp only [outlineOfFields, readFields, hg', hcontains, Bool.false_eq_true, if_false, hread]
      exact hnext.trans (by simp)

/-- A record is read back if its fields are and no required one is missing. -/
theorem decode_object {fields : List (String × Json)} {r : ρ}
    (hformat : (format.fields.map Field.name).Nodup)
    (h : format.Reads (format.fields.map Field.name) fields r)
    (hrequired : ∀ f ∈ format.fields, f.required = true → f.name ∈ fields.map Prod.fst) :
    format.decode (object fields).outline = .ok r := by
  have hread := format.readFields_outline (hformat.sublist h.names)
    (fun _ _ => List.not_mem_nil) (fun _ hname => h.names.subset hname) h.fields
  have hnone : (format.fields.find? fun f =>
      f.required && !((fields.map Prod.fst).reverse ++ []).contains f.name) = none := by
    simpa using hrequired
  simp only [outline, decode, hread, bind, Except.bind, Closing.fault?, failIfSome, hnone]
  rfl

theorem reads_nil : format.Reads [] [] format.blank := ⟨.refl _, rfl⟩

namespace Reads

variable {format} {names : List String} {fields more : List (String × Json)} {write : α → Json}
  {d : Decoder α} {r : ρ}

theorem append {r' : ρ} {more : List (String × Json)} {name : String}
    (h : format.Reads names fields r) (hname : (more.map Prod.fst).Sublist [name])
    (hmore : more.foldlM format.readField r = .ok r') :
    format.Reads (names ++ [name]) (fields ++ more) r' := by
  refine ⟨?_, ?_⟩
  · rw [List.map_append]
    exact h.names.append hname
  · rw [List.foldlM_append, h.fields]
    exact hmore

/-- A field that is always written is read back. -/
theorem given {required : Bool} {set : α → ρ → ρ} (h : format.Reads names fields r)
    (name : String) (hd : d.ReadsBack write) (a : α)
    (hfind : (format.fields.find? fun g => g.name == name) =
      some ⟨name, required, fun o r => (d o).map (set · r)⟩) :
    format.Reads (names ++ [name]) (fields ++ [(name, write a)]) (set a r) := by
  refine h.append (.refl _) ?_
  simp only [List.foldlM_cons, List.foldlM_nil, readField, hfind, hd a]
  rfl

/-- A field that is left out for none is read back into a record that has none. -/
theorem optional {set : Option α → ρ → ρ} (h : format.Reads names fields r) (name : String)
    (hd : d.ReadsBack write) (hnull : ∀ a, (write a).outline ≠ .null) (value : Option α)
    (hfind : (format.fields.find? fun g => g.name == name) =
      some (.optional name (Decoder.optional d) set))
    (hnone : set none r = r) :
    format.Reads (names ++ [name]) (fields ++ optionalField name write value) (set value r) := by
  refine h.append (map_fst_optionalField ..) ?_
  cases value with
  | none => exact congrArg Except.ok hnone.symm
  | some a =>
    simp only [optionalField, List.foldlM_cons, List.foldlM_nil, readField, hfind, Field.optional,
      hd.optional (hnull a)]
    rfl

/-- A list that is left out when it is empty is read back into a record that has an empty one. -/
theorem list {set : List α → ρ → ρ} (h : format.Reads names fields r) (name : String)
    (hd : d.ReadsBack write) (values : List α)
    (hfind : (format.fields.find? fun g => g.name == name) =
      some (.optional name (Decoder.list d) set))
    (hnil : set [] r = r) :
    format.Reads (names ++ [name]) (fields ++ listField name write values) (set values r) := by
  refine h.append (map_fst_listField ..) ?_
  cases values with
  | nil => exact congrArg Except.ok hnil.symm
  | cons a rest =>
    simp only [listField, List.foldlM_cons, List.foldlM_nil, readField, hfind, Field.optional,
      hd.list (a :: rest)]
    rfl

end Reads

end RecordFormat

end Json

end EnumAccessors

import EnumAccessors.Naming.Conversion
import EnumAccessors.Proofs.Ascii

/-!
# What a conversion keeps

A conversion takes a name apart and writes its words in another casing.  Here is what survives.

* `Naming.isValid_convert`: an identifier stays an identifier, whatever the mappings of letter
  case make of its words.  Where they make none, the name is left as it was, and
  `Naming.convert_of_not_isSupported` is the other case in which it is.
* `Naming.skeleton_convert`: of a name in ASCII only letter case and separators change.  What is
  left when both are taken away is its `Words.skeleton`.
-/

namespace EnumAccessors

/-! ### Identifiers -/

namespace Identifier

theorem isPart_of_isStart {c : Char} (h : isStart c = true) : isPart c = true := by
  simp only [isStart, Bool.or_eq_true, beq_iff_eq] at h
  rcases h with (hletter | hnumber) | rfl
  · simp [isPart, hletter]
  · simp [isPart, hnumber]
  · -- the low line is connecting punctuation
    decide

theorem all_isPart_of_isValidChars {cs : List Char} (h : isValidChars cs = true) :
    cs.all isPart = true := by
  cases cs with
  | nil => cases h
  | cons c rest =>
    obtain ⟨hc, hrest⟩ := Bool.and_eq_true_iff.1 h
    rw [List.all_cons, isPart_of_isStart hc, hrest, Bool.and_self]

/-- What may not stand in an identifier does not. -/
theorem not_mem_of_isValid {text : String} {c : Char} (h : isValid text = true)
    (hc : isPart c = false) : c ∉ text.toList := by
  intro hmem
  have hpart : isPart c = true := List.all_eq_true.1 (all_isPart_of_isValidChars h) c hmem
  rw [hc] at hpart
  cases hpart

theorem isValidChars_append {cs ds : List Char} (hcs : isValidChars cs = true)
    (hds : ds.all isPart = true) : isValidChars (cs ++ ds) = true := by
  cases cs with
  | nil => cases hcs
  | cons c rest =>
    obtain ⟨hc, hrest⟩ := Bool.and_eq_true_iff.1 hcs
    rw [List.cons_append, isValidChars, List.all_append, hc, hrest, hds]
    rfl

/-- Two identifiers make one when they are written together. -/
theorem isValid_append {s t : String} (hs : isValid s = true) (ht : isValid t = true) :
    isValid (s ++ t) = true := by
  rw [isValid, String.toList_append]
  exact isValidChars_append hs (all_isPart_of_isValidChars ht)

end Identifier

/-! ### Casings -/

namespace Casing

variable {t : Casing} {cs : List Char}

theorem isIdentifierSafe_eq_false_iff :
    t.isIdentifierSafe = false ↔ t ∈ [.kebab, .spacedCamel, .train, .unknown] := by
  cases t <;> decide

/-- A name in a casing is the name itself or its words joined, and the latter only if they make an
identifier where the casing promises one. -/
theorem applyChars_cases (t : Casing) (cs : List Char) :
    t.applyChars cs = cs ∨ t.applyChars cs = t.join (Words.split cs) ∧
      (t.isIdentifierSafe = true → Identifier.isValidChars (t.join (Words.split cs)) = true) := by
  simp only [applyChars]
  split
  · exact .inl rfl
  · split
    · exact .inl rfl
    · next hjoined => exact .inr ⟨rfl, by simpa using hjoined⟩

theorem isValidChars_applyChars (ht : t.isIdentifierSafe = true)
    (h : Identifier.isValidChars cs = true) : Identifier.isValidChars (t.applyChars cs) = true := by
  rcases applyChars_cases t cs with hsame | ⟨hjoined, hvalid⟩
  · rw [hsame]
    exact h
  · rw [hjoined]
    exact hvalid ht

end Casing

/-! ### Skeletons -/

namespace Words

/-- What is left of a text when letter case and separators do not count. -/
def skeleton (cs : List Char) : List Char :=
  (cs.filter fun c => !isSeparator c).map Char.toLower

@[simp] theorem skeleton_nil : skeleton [] = [] := rfl

@[simp] theorem skeleton_append (cs ds : List Char) :
    skeleton (cs ++ ds) = skeleton cs ++ skeleton ds := by
  simp [skeleton]

theorem skeleton_flatMap {α : Type} (xs : List α) (f : α → List Char) :
    skeleton (xs.flatMap f) = xs.flatMap fun x => skeleton (f x) := by
  simp [skeleton, List.filter_flatMap, List.map_flatMap]

/-- The words of a text have its skeleton. -/
theorem flatMap_skeleton_split (cs : List Char) :
    (split cs).flatMap skeleton = skeleton cs := by
  have hwords : (split cs).flatMap skeleton = skeleton (split cs).flatten := by
    rw [List.flatten_eq_flatMap, skeleton_flatMap]
    rfl
  rw [hwords, flatten_split, skeleton, skeleton, List.filter_filter]
  simp

/-- The words of a text are made of its characters. -/
theorem mem_of_mem_split {cs w : List Char} {c : Char} (hw : w ∈ split cs) (hc : c ∈ w) :
    c ∈ cs := by
  have hflat : c ∈ (split cs).flatten := List.mem_flatten.2 ⟨w, hw, hc⟩
  rw [flatten_split] at hflat
  exact (List.mem_filter.1 hflat).1

/-- Characters mapped one by one keep the skeleton if only their letter case changes. -/
theorem skeleton_map {f : Char → Char} {cs : List Char}
    (h : ∀ c ∈ cs, isSeparator (f c) = isSeparator c ∧ (f c).toLower = c.toLower) :
    skeleton (cs.map f) = skeleton cs := by
  induction cs with
  | nil => rfl
  | cons c cs ih =>
    obtain ⟨⟨hsep, hlower⟩, hcs⟩ := List.forall_mem_cons.1 h
    have hmapped : skeleton [f c] = skeleton [c] := by
      simp [skeleton, List.filter_cons, hsep, hlower, apply_ite]
    rw [List.map_cons, ← List.singleton_append, ← List.singleton_append (l := cs),
      skeleton_append, skeleton_append, hmapped, ih hcs]

section Ascii

variable {w : List Char} (hw : ∀ c ∈ w, Unicode.isAscii c = true)

include hw

theorem skeleton_lowercase : skeleton (Unicode.lowercase w) = skeleton w := by
  rw [Unicode.lowercase_of_all_isAscii hw]
  refine skeleton_map fun c hc => ?_
  have hcase := Unicode.hasAsciiCase (hw c hc)
  exact ⟨hcase.isSeparator_toLower, hcase.toLower_toLower⟩

theorem skeleton_uppercase : skeleton (Unicode.uppercase w) = skeleton w := by
  rw [Unicode.uppercase_of_all_isAscii hw]
  refine skeleton_map fun c hc => ?_
  have hcase := Unicode.hasAsciiCase (hw c hc)
  exact ⟨hcase.isSeparator_toUpper, hcase.toLower_toUpper⟩

theorem skeleton_capitalize : skeleton (capitalize w) = skeleton w := by
  cases w with
  | nil => rfl
  | cons c rest =>
    obtain ⟨hc, hrest⟩ := List.forall_mem_cons.1 hw
    have hfirst : skeleton (Unicode.toUppercase c) = skeleton [c] := by
      simpa [Unicode.uppercase] using skeleton_uppercase (w := [c]) (by simpa using hc)
    rw [capitalize, skeleton_append, hfirst, skeleton_lowercase hrest, ← skeleton_append,
      List.singleton_append]

end Ascii

end Words

namespace Casing

variable {t : Casing} {cs w : List Char}

theorem skeleton_separator (t : Casing) : Words.skeleton t.separator = [] := by
  cases t <;> rfl

theorem skeleton_writeFirst (hw : ∀ c ∈ w, Unicode.isAscii c = true) :
    Words.skeleton (t.writeFirst w) = Words.skeleton w := by
  cases t with
  | camel | snake | kebab | spacedCamel => exact Words.skeleton_lowercase hw
  | pascal | train => exact Words.skeleton_capitalize hw
  | screamingSnake => exact Words.skeleton_uppercase hw
  | unknown => rfl

theorem skeleton_writeNext (hw : ∀ c ∈ w, Unicode.isAscii c = true) :
    Words.skeleton (t.writeNext w) = Words.skeleton w := by
  cases t with
  | snake | kebab => exact Words.skeleton_lowercase hw
  | camel | pascal | spacedCamel | train => exact Words.skeleton_capitalize hw
  | screamingSnake => exact Words.skeleton_uppercase hw
  | unknown => rfl

theorem skeleton_join {words : List (List Char)}
    (h : ∀ w ∈ words, ∀ c ∈ w, Unicode.isAscii c = true) :
    Words.skeleton (t.join words) = words.flatMap Words.skeleton := by
  cases words with
  | nil => rfl
  | cons first rest =>
    obtain ⟨hfirst, hrest⟩ := List.forall_mem_cons.1 h
    have hnext : ∀ w ∈ rest,
        Words.skeleton (t.separator ++ t.writeNext w) = Words.skeleton w := fun w hw => by
      rw [Words.skeleton_append, skeleton_separator, skeleton_writeNext (hrest w hw),
        List.nil_append]
    rw [join, Words.skeleton_append, skeleton_writeFirst hfirst, Words.skeleton_flatMap,
      List.flatMap_cons, List.flatMap_def, List.map_congr_left hnext, List.flatMap_def]

/-- Of a name in ASCII a casing changes only letter case and separators. -/
theorem skeleton_applyChars (hcs : ∀ c ∈ cs, Unicode.isAscii c = true) :
    Words.skeleton (t.applyChars cs) = Words.skeleton cs := by
  rcases applyChars_cases t cs with hsame | ⟨hjoined, -⟩
  · rw [hsame]
  · have hwords : ∀ w ∈ Words.split cs, ∀ c ∈ w, Unicode.isAscii c = true :=
      fun w hw c hc => hcs c (Words.mem_of_mem_split hw hc)
    rw [hjoined, skeleton_join hwords, Words.flatMap_skeleton_split]

end Casing

/-! ### Preferences -/

namespace Naming

variable (n : Naming) {name : String}

/-- A preference is unsupported if one of its sides needs separators or is unknown. -/
theorem isSupported_eq_false_iff :
    n.isSupported = false ↔ n.source ∈ [.kebab, .spacedCamel, .train, .unknown] ∨
      n.target ∈ [.kebab, .spacedCamel, .train, .unknown] := by
  rw [isSupported, Bool.and_eq_false_iff, Casing.isIdentifierSafe_eq_false_iff,
    Casing.isIdentifierSafe_eq_false_iff]

/-- An unsupported preference changes nothing. -/
theorem convert_of_not_isSupported (h : n.isSupported = false) (name : String) :
    n.convert name = name := by
  rw [convert, h]
  rfl

/-- A converted identifier is an identifier. -/
theorem isValid_convert (h : Identifier.isValid name = true) :
    Identifier.isValid (n.convert name) = true := by
  cases hn : n.isSupported with
  | false => rwa [convert_of_not_isSupported n hn]
  | true =>
    obtain ⟨-, htarget⟩ := Bool.and_eq_true_iff.1 hn
    rw [convert, hn, if_pos rfl, Casing.apply, Identifier.isValid, String.toList_ofList]
    exact Casing.isValidChars_applyChars htarget h

/-- Of a name in ASCII only letter case and separators change. -/
theorem skeleton_convert (h : ∀ c ∈ name.toList, Unicode.isAscii c = true) :
    Words.skeleton (n.convert name).toList = Words.skeleton name.toList := by
  cases hn : n.isSupported with
  | false => rw [convert_of_not_isSupported n hn]
  | true =>
    rw [convert, hn, if_pos rfl, Casing.apply, String.toList_ofList]
    exact Casing.skeleton_applyChars h

end Naming

end EnumAccessors

import Mathlib.Data.List.Basic

/-!
# Texts put together and taken apart

Generated code is text that was put together from parts.  Here are the ways in which it is taken
apart again: what stands between a beginning and an end (`Text.between?`), on the two sides of the
last occurrence of a character (`Text.splitLast?`), and between all its occurrences
(`Text.pieces`), which gives lines and words.  Parts are found again as long as the character is
not in them.
-/

namespace EnumAccessors

namespace Text

variable {opening closing text s t : String} {c : Char}

/-! ### Between a beginning and an end -/

/-- What stands between a beginning and an end of a text. -/
def between? (opening closing text : String) : Option String :=
  ((text.toList.dropPrefix? opening.toList).bind fun rest =>
    rest.dropSuffix? closing.toList).map String.ofList

theorem between?_eq_some_iff :
    between? opening closing text = some s ↔ text = opening ++ s ++ closing := by
  simp only [between?, Option.map_eq_some_iff, Option.bind_eq_some_iff,
    List.dropPrefix?_eq_some_iff, List.dropSuffix?_eq_some_iff, beq_iff_eq]
  constructor
  · rintro ⟨cs, ⟨rest, ⟨_, htext, rfl⟩, _, rfl, rfl⟩, rfl⟩
    rw [← String.toList_inj, htext]
    simp
  · rintro rfl
    exact ⟨s.toList, ⟨s.toList ++ closing.toList, ⟨_, by simp, rfl⟩, _, rfl, rfl⟩,
      String.ofList_toList⟩

@[simp] theorem between?_append (opening s closing : String) :
    between? opening closing (opening ++ s ++ closing) = some s :=
  between?_eq_some_iff.2 rfl

theorem between?_eq_none_iff :
    between? opening closing text = none ↔ ∀ s, text ≠ opening ++ s ++ closing := by
  simp only [Option.eq_none_iff_forall_ne_some, ne_eq, between?_eq_some_iff]

/-! ### At the last occurrence of a character -/

/-- The characters before and behind the last occurrence of one. -/
def splitLastChars? (c : Char) : List Char → Option (List Char × List Char)
  | [] => none
  | x :: rest =>
    match splitLastChars? c rest with
    | some (before, behind) => some (x :: before, behind)
    | none => if x = c then some ([], rest) else none

/-- What stands before and behind the last occurrence of a character. -/
def splitLast? (c : Char) (text : String) : Option (String × String) :=
  (splitLastChars? c text.toList).map fun (before, behind) =>
    (String.ofList before, String.ofList behind)

theorem splitLastChars?_eq_none {cs : List Char} (h : c ∉ cs) : splitLastChars? c cs = none := by
  induction cs with
  | nil => rfl
  | cons x rest ih =>
    rw [List.mem_cons, not_or] at h
    rw [splitLastChars?, ih h.2]
    exact if_neg (Ne.symm h.1)

theorem splitLastChars?_append {behind : List Char} (h : c ∉ behind) (before : List Char) :
    splitLastChars? c (before ++ c :: behind) = some (before, behind) := by
  induction before with
  | nil =>
    rw [List.nil_append, splitLastChars?, splitLastChars?_eq_none h]
    exact if_pos rfl
  | cons x before ih => rw [List.cons_append, splitLastChars?, ih]

/-- The last occurrence is found if there is none behind it. -/
theorem splitLast?_append (h : c ∉ t.toList) (s : String) :
    splitLast? c (s ++ String.singleton c ++ t) = some (s, t) := by
  have hsplit := splitLastChars?_append h s.toList
  simp [splitLast?, hsplit]

/-! ### Between all occurrences of a character -/

/-- The pieces of a text between the occurrences of a character. -/
def pieces (c : Char) (text : String) : List String :=
  (text.toList.splitOn c).map String.ofList

theorem pieces_eq_singleton (h : c ∉ s.toList) : pieces c s = [s] := by
  rw [pieces, List.splitOn_eq_singleton h, List.map_singleton, String.ofList_toList]

/-- The first piece ends at the first occurrence. -/
theorem pieces_append (h : c ∉ s.toList) (t : String) :
    pieces c (s ++ String.singleton c ++ t) = s :: pieces c t := by
  have hchars : (s ++ String.singleton c ++ t).toList = s.toList ++ c :: t.toList := by simp
  rw [pieces, hchars, List.splitOn_append_cons_self_of_not_mem h, List.map_cons,
    String.ofList_toList, pieces]

/-- Pieces that were joined are found again. -/
theorem pieces_intercalate {texts : List String} (hne : texts ≠ [])
    (h : ∀ s ∈ texts, c ∉ s.toList) :
    pieces c (String.intercalate (String.singleton c) texts) = texts := by
  induction texts with
  | nil => contradiction
  | cons s rest ih =>
    rw [List.forall_mem_cons] at h
    cases rest with
    | nil => rw [String.intercalate_singleton, pieces_eq_singleton h.1]
    | cons s' rest =>
      rw [String.intercalate_cons_cons, pieces_append h.1, ih (List.cons_ne_nil s' rest) h.2]

theorem intercalate_pieces (c : Char) (text : String) :
    String.intercalate (String.singleton c) (pieces c text) = text := by
  rw [← String.toList_inj, String.toList_intercalate, pieces, List.map_map]
  simp [Function.comp_def, List.intercalate_splitOn]

/-- What is in none of the joined texts and not in what joins them is not in the whole. -/
theorem not_mem_intercalate {separator : String} {texts : List String}
    (hseparator : c ∉ separator.toList) (h : ∀ s ∈ texts, c ∉ s.toList) :
    c ∉ (String.intercalate separator texts).toList := by
  induction texts with
  | nil => simp
  | cons s rest ih =>
    rw [List.forall_mem_cons] at h
    cases rest with
    | nil => simpa using h.1
    | cons s' rest =>
      rw [String.intercalate_cons_cons, String.toList_append, String.toList_append,
        List.mem_append, List.mem_append, not_or, not_or]
      exact ⟨⟨h.1, hseparator⟩, ih h.2⟩

/-! ### Lines and words -/

/-- Lines, each with its end. -/
def unlines (lines : List String) : String := String.join (lines.map fun line => line ++ "\n")

@[simp] theorem unlines_append (xs ys : List String) :
    unlines (xs ++ ys) = unlines xs ++ unlines ys := by
  simp [unlines]

/-- Lines are joined as if each were ended, if the last one is empty. -/
theorem intercalate_concat_empty (lines : List String) :
    String.intercalate "\n" (lines ++ [""]) = unlines lines := by
  induction lines with
  | nil => rfl
  | cons line rest ih =>
    have hne : rest ++ [""] ≠ [] := List.append_ne_nil_of_right_ne_nil rest (List.cons_ne_nil _ _)
    rw [List.cons_append, String.intercalate_cons_of_ne_nil hne, ih]
    simp [unlines]

/-- The lines of a text. -/
def lines (text : String) : List String := pieces '\n' text

/-- There is no line break in a text. -/
def IsSingleLine (text : String) : Prop := '\n' ∉ text.toList

instance (text : String) : Decidable (IsSingleLine text) :=
  inferInstanceAs (Decidable ('\n' ∉ text.toList))

@[simp] theorem isSingleLine_append :
    IsSingleLine (s ++ t) ↔ IsSingleLine s ∧ IsSingleLine t := by
  simp [IsSingleLine]

/-- Lines that were joined are found again. -/
theorem lines_intercalate {texts : List String} (hne : texts ≠ [])
    (h : ∀ line ∈ texts, IsSingleLine line) : lines (String.intercalate "\n" texts) = texts :=
  pieces_intercalate hne h

/-- The words of a text. -/
def words (text : String) : List String := pieces ' ' text

/-- A text without a space is a word. -/
theorem words_eq_singleton (h : ' ' ∉ s.toList) : words s = [s] :=
  pieces_eq_singleton h

/-- The first word ends at the first space. -/
theorem words_append (h : ' ' ∉ s.toList) (t : String) : words (s ++ " " ++ t) = s :: words t :=
  pieces_append h t

end Text

end EnumAccessors

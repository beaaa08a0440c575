import EnumAccessors.Proofs.Conversion
import EnumAccessors.Proofs.Words

/-!
# Names in ASCII and their casings

In ASCII a casing changes nothing of a word but letter case (`Casing.lowercase_writeNext`), and the
letter case that the word had does not matter (`Casing.writeNext_lowercase`).

* `Casing.apply_apply_of_snake`: the words of a name are found again in its two snake casings, so
  that these lose nothing for any other casing.
* `Casing.lowercase_apply`: without letter case and separators a name is the same in all casings.
-/

namespace EnumAccessors

/-! ### Letter case -/

namespace Identifier

variable {cs ds : List Char}

theorem isValidChars_append_of_ne_nil (hcs : cs ≠ []) :
    isValidChars (cs ++ ds) = (isValidChars cs && ds.all isPart) := by
  cases cs with
  | nil => contradiction
  | cons c rest => simp only [List.cons_append, isValidChars, List.all_append, Bool.and_assoc]

theorem all_isPart_lowercase (hcs : ∀ c ∈ cs, Unicode.isAscii c = true) :
    (Unicode.lowercase cs).all isPart = cs.all isPart := by
  induction cs with
  | nil => rfl
  | cons c rest ih =>
    rw [Unicode.lowercase_cons hcs, List.all_cons, List.all_cons,
      (Unicode.hasAsciiCase (hcs c List.mem_cons_self)).isPart_toLower,
      ih (List.forall_mem_of_forall_mem_cons hcs)]

/-- Letter case does not matter in an identifier. -/
theorem isValidChars_lowercase (hcs : ∀ c ∈ cs, Unicode.isAscii c = true) :
    isValidChars (Unicode.lowercase cs) = isValidChars cs := by
  cases cs with
  | nil => rfl
  | cons c rest =>
    rw [Unicode.lowercase_cons hcs, isValidChars, isValidChars,
      (Unicode.hasAsciiCase (hcs c List.mem_cons_self)).isStart_toLower,
      all_isPart_lowercase (List.forall_mem_of_forall_mem_cons hcs)]

end Identifier

namespace Words

variable {c : Char} {w : List Char}

theorem capitalize_cons (hc : Unicode.isAscii c = true) (rest : List Char) :
    capitalize (c :: rest) = c.toUpper :: Unicode.lowercase rest := by
  rw [capitalize, (Unicode.hasAsciiCase hc).raised, List.singleton_append]

section Texts

variable (hw : ∀ x ∈ w, Unicode.isAscii x = true)

include hw

/-- The words of a text in ASCII are in ASCII. -/
theorem isAscii_of_mem_split : ∀ v ∈ split w, ∀ x ∈ v, Unicode.isAscii x = true :=
  fun _ hv x hx => hw x (mem_of_mem_split hv hx)

/-- Letter case does not make a separator. -/
theorem forall_mem_lowercase_isSeparator :
    (∀ c ∈ Unicode.lowercase w, isSeparator c = false) ↔ ∀ c ∈ w, isSeparator c = false := by
  rw [Unicode.lowercase_of_all_isAscii hw, List.forall_mem_map]
  refine forall₂_congr fun c hc => ?_
  rw [(Unicode.hasAsciiCase (hw c hc)).isSeparator_toLower]

theorem isAscii_of_mem_capitalize : ∀ x ∈ capitalize w, Unicode.isAscii x = true := by
  cases w with
  | nil => exact List.forall_mem_nil _
  | cons c rest =>
    obtain ⟨hc, hrest⟩ := List.forall_mem_cons.1 hw
    rw [capitalize_cons hc, List.forall_mem_cons]
    exact ⟨(Unicode.hasAsciiCase hc).isAscii_toUpper, Unicode.isAscii_of_mem_lowercase hrest⟩

theorem lowercase_capitalize : Unicode.lowercase (capitalize w) = Unicode.lowercase w := by
  have hcapital := isAscii_of_mem_capitalize hw
  cases w with
  | nil => rfl
  | cons c rest =>
    obtain ⟨hc, hrest⟩ := List.forall_mem_cons.1 hw
    rw [capitalize_cons hc] at hcapital ⊢
    rw [Unicode.lowercase_cons hcapital, Unicode.lowercase_lowercase hrest,
      (Unicode.hasAsciiCase hc).toLower_toUpper, Unicode.lowercase_cons hw]

theorem capitalize_lowercase : capitalize (Unicode.lowercase w) = capitalize w := by
  cases w with
  | nil => rfl
  | cons c rest =>
    obtain ⟨hc, hrest⟩ := List.forall_mem_cons.1 hw
    rw [Unicode.lowercase_cons hw, capitalize_cons (Unicode.hasAsciiCase hc).isAscii_toLower,
      capitalize_cons hc, (Unicode.hasAsciiCase hc).toUpper_toLower,
      Unicode.lowercase_lowercase hrest]

end Texts

end Words

/-! ### Words in a casing -/

namespace Casing

/-- The first word is written as some casing writes the words after the first. -/
theorem exists_writeFirst_eq (t : Casing) :
    ∃ u : Casing, (t ≠ unknown → u ≠ unknown) ∧ t.writeFirst = u.writeNext := by
  cases t with
  | camel | spacedCamel | snake | kebab => exact ⟨snake, fun _ => by decide, rfl⟩
  | pascal | train => exact ⟨pascal, fun _ => by decide, rfl⟩
  | screamingSnake => exact ⟨screamingSnake, fun _ => by decide, rfl⟩
  | unknown => exact ⟨unknown, id, rfl⟩

section Words

variable {w : List Char} (hw : ∀ c ∈ w, Unicode.isAscii c = true) (t : Casing)

include hw

theorem isAscii_of_mem_writeNext : ∀ c ∈ t.writeNext w, Unicode.isAscii c = true := by
  cases t with
  | snake | kebab => exact Unicode.isAscii_of_mem_lowercase hw
  | camel | pascal | spacedCamel | train => exact Words.isAscii_of_mem_capitalize hw
  | screamingSnake => exact Unicode.isAscii_of_mem_uppercase hw
  | unknown => exact hw

/-- A casing changes nothing of a word but letter case. -/
theorem lowercase_writeNext : Unicode.lowercase (t.writeNext w) = Unicode.lowercase w := by
  cases t with
  | snake | kebab => exact Unicode.lowercase_lowercase hw
  | camel | pascal | spacedCamel | train => exact Words.lowercase_capitalize hw
  | screamingSnake => exact Unicode.lowercase_uppercase hw
  | unknown => rfl

/-- The letter case that a word had does not matter in a casing. -/
theorem writeNext_lowercase {t : Casing} (ht : t ≠ unknown) :
    t.writeNext (Unicode.lowercase w) = t.writeNext w := by
  cases t with
  | snake | kebab => exact Unicode.lowercase_lowercase hw
  | camel | pascal | spacedCamel | train => exact Words.capitalize_lowercase hw
  | screamingSnake => exact Unicode.uppercase_lowercase hw
  | unknown => contradiction

/-- A word that was written in a casing is written in another one as before. -/
theorem writeNext_writeNext {u : Casing} (hu : u ≠ unknown) :
    u.writeNext (t.writeNext w) = u.writeNext w := by
  rw [← writeNext_lowercase (isAscii_of_mem_writeNext hw t) hu, lowercase_writeNext hw,
    writeNext_lowercase hw hu]

theorem writeNext_ne_nil (hne : w ≠ []) : t.writeNext w ≠ [] := by
  intro h
  have hlower := lowercase_writeNext hw t
  rw [h, Unicode.lowercase_of_all_isAscii hw] at hlower
  exact hne (List.map_eq_nil_iff.1 hlower.symm)

theorem isValidChars_writeNext :
    Identifier.isValidChars (t.writeNext w) = Identifier.isValidChars w := by
  rw [← Identifier.isValidChars_lowercase (isAscii_of_mem_writeNext hw t), lowercase_writeNext hw,
    Identifier.isValidChars_lowercase hw]

theorem all_isPart_writeNext :
    (t.writeNext w).all Identifier.isPart = w.all Identifier.isPart := by
  rw [← Identifier.all_isPart_lowercase (isAscii_of_mem_writeNext hw t), lowercase_writeNext hw,
    Identifier.all_isPart_lowercase hw]

theorem isSeparator_of_mem_writeNext (h : ∀ c ∈ w, Words.isSeparator c = false) :
    ∀ c ∈ t.writeNext w, Words.isSeparator c = false := by
  rw [← Words.forall_mem_lowercase_isSeparator (isAscii_of_mem_writeNext hw t),
    lowercase_writeNext hw, Words.forall_mem_lowercase_isSeparator hw]
  exact h

end Words

/-! ### Names in a casing -/

variable {t u : Casing} {words : List (List Char)} {cs : List Char}

/-- Where a casing promises identifiers, nothing between the words is in the way. -/
theorem all_isPart_separator (hu : u.isIdentifierSafe = true) :
    u.separator.all Identifier.isPart = true := by
  cases u with
  | camel | pascal => rfl
  | snake | screamingSnake => decide
  | kebab | spacedCamel | train | unknown => contradiction

/-- The snake casings put a low line between words that are written alike. -/
theorem join_of_snake (ht : t = snake ∨ t = screamingSnake) (words : List (List Char)) :
    t.join words = ['_'].intercalate (words.map t.writeNext) := by
  have hwrite : t.writeFirst = t.writeNext ∧ t.separator = ['_'] := by
    rcases ht with rfl | rfl <;> exact ⟨rfl, rfl⟩
  cases words with
  | nil => rfl
  | cons first rest =>
    rw [join, hwrite.1, hwrite.2]
    induction rest generalizing first with
    | nil => simp
    | cons w rest ih =>
      rw [List.map_cons, List.map_cons, List.intercalate_cons_cons, ← List.map_cons, ← ih w,
        List.flatMap_cons, List.append_assoc, List.append_assoc]

section Joined

variable (hwords : ∀ w ∈ words, ∀ c ∈ w, Unicode.isAscii c = true)

include hwords

theorem isAscii_of_mem_join (t : Casing) : ∀ c ∈ t.join words, Unicode.isAscii c = true := by
  have hseparator : ∀ c ∈ t.separator, Unicode.isAscii c = true := by
    cases t <;> exact List.all_eq_true.1 (by decide)
  cases words with
  | nil => exact List.forall_mem_nil _
  | cons first rest =>
    obtain ⟨hfirst, hrest⟩ := List.forall_mem_cons.1 hwords
    obtain ⟨u, -, hwrite⟩ := exists_writeFirst_eq t
    intro c hc
    rw [join, hwrite, List.mem_append, List.mem_flatMap] at hc
    rcases hc with hc | ⟨w, hw, hc⟩
    · exact isAscii_of_mem_writeNext hfirst u c hc
    · rcases List.mem_append.1 hc with hc | hc
      · exact hseparator c hc
      · exact isAscii_of_mem_writeNext (hrest w hw) t c hc

theorem join_map_writeNext (hu : u ≠ unknown) (t : Casing) :
    u.join (words.map t.writeNext) = u.join words := by
  cases words with
  | nil => rfl
  | cons first rest =>
    obtain ⟨hfirst, hrest⟩ := List.forall_mem_cons.1 hwords
    obtain ⟨v, hv, hwrite⟩ := exists_writeFirst_eq u
    have hnext : ∀ w ∈ rest, u.separator ++ u.writeNext (t.writeNext w) =
        u.separator ++ u.writeNext w := fun w hw => by
      rw [writeNext_writeNext (hrest w hw) t hu]
    rw [List.map_cons, join, join, hwrite, writeNext_writeNext hfirst t (hv hu), List.flatMap_map,
      List.flatMap_def, List.flatMap_def, List.map_congr_left hnext]

/-- Words make an identifier in all casings that promise one or in none. -/
theorem isValidChars_join (hu : u.isIdentifierSafe = true) (hne : ∀ w ∈ words, w ≠ []) :
    Identifier.isValidChars (u.join words) = Identifier.isValidChars words.flatten := by
  cases words with
  | nil => rfl
  | cons first rest =>
    obtain ⟨hfirst, hrest⟩ := List.forall_mem_cons.1 hwords
    obtain ⟨v, -, hwrite⟩ := exists_writeFirst_eq u
    have hnonempty : first ≠ [] := hne first List.mem_cons_self
    have hparts : (rest.flatMap fun w => u.separator ++ u.writeNext w).all Identifier.isPart =
        rest.flatten.all Identifier.isPart := by
      rw [List.all_flatMap, List.all_flatten, Bool.eq_iff_iff, List.all_eq_true, List.all_eq_true]
      refine forall₂_congr fun w hw => ?_
      rw [List.all_append, all_isPart_separator hu, Bool.true_and,
        all_isPart_writeNext (hrest w hw)]
    rw [join, hwrite,
      Identifier.isValidChars_append_of_ne_nil (writeNext_ne_nil hfirst v hnonempty),
      isValidChars_writeNext hfirst, hparts, List.flatten_cons,
      Identifier.isValidChars_append_of_ne_nil hnonempty]

/-- The words of a name are found again in a snake casing. -/
theorem split_join_of_snake (ht : t = snake ∨ t = screamingSnake) (hne : ∀ w ∈ words, w ≠ [])
    (hseparator : ∀ w ∈ words, ∀ c ∈ w, Words.isSeparator c = false) :
    Words.split (t.join words) = words.map t.writeNext := by
  rw [join_of_snake ht]
  refine Words.split_intercalate (by decide) (List.forall_mem_map.2 fun w hw => ?_)
  -- in one letter case there is no rise
  have hlevel : (∀ c ∈ t.writeNext w, Unicode.isUppercase c = false) ∨
      ∀ c ∈ t.writeNext w, Unicode.isLowercase c = false := by
    rcases ht with rfl | rfl
    · exact .inl (Unicode.isUppercase_of_mem_lowercase (hwords w hw))
    · exact .inr (Unicode.isLowercase_of_mem_uppercase (hwords w hw))
  exact Words.split_eq_singleton (writeNext_ne_nil (hwords w hw) t (hne w hw))
    (isSeparator_of_mem_writeNext (hwords w hw) t (hseparator w hw)) (Words.isChain_level hlevel)

end Joined

section Texts

variable (hcs : ∀ c ∈ cs, Unicode.isAscii c = true)

include hcs

/-- A name in ASCII is in ASCII in all casings. -/
theorem isAscii_of_mem_applyChars (t : Casing) :
    ∀ c ∈ t.applyChars cs, Unicode.isAscii c = true := by
  rcases applyChars_cases t cs with hsame | ⟨hjoined, -⟩
  · rw [hsame]
    exact hcs
  · rw [hjoined]
    exact isAscii_of_mem_join (Words.isAscii_of_mem_split hcs) t

/-- What the words of a name make of an identifier they make in every casing. -/
theorem isValidChars_join_split (hu : u.isIdentifierSafe = true) :
    Identifier.isValidChars (u.join (Words.split cs)) =
      Identifier.isValidChars (Words.split cs).flatten :=
  isValidChars_join (Words.isAscii_of_mem_split hcs) hu fun _ => Words.ne_nil_of_mem_split

/-- A name whose words make an identifier does not stay as it is. -/
theorem applyChars_of_isValidChars (hu : u ≠ unknown)
    (h : Identifier.isValidChars (Words.split cs).flatten = true) :
    u.applyChars cs = u.join (Words.split cs) := by
  have hsome : Words.split cs ≠ [] := by
    intro hnil
    rw [hnil] at h
    cases h
  simp only [applyChars]
  split_ifs with hnone hvalid
  · simp_all
  · rw [Bool.and_eq_true, Bool.not_eq_true'] at hvalid
    rw [isValidChars_join_split hcs hvalid.1, h] at hvalid
    cases hvalid.2
  · rfl

/-- The words of a name are not lost in a snake casing. -/
theorem applyChars_applyChars (ht : t = snake ∨ t = screamingSnake) (hu : u ≠ unknown) :
    u.applyChars (t.applyChars cs) = u.applyChars cs := by
  rcases applyChars_cases t cs with hsame | ⟨hjoined, hvalid⟩
  · rw [hsame]
  · have hwords := Words.isAscii_of_mem_split hcs
    have hsnake := isAscii_of_mem_applyChars hcs t
    obtain ⟨hsafe, hknown⟩ : t.isIdentifierSafe = true ∧ t ≠ unknown := by
      rcases ht with rfl | rfl <;> decide
    have hsplit : Words.split (t.applyChars cs) = (Words.split cs).map t.writeNext := by
      rw [hjoined]
      exact split_join_of_snake hwords ht (fun _ => Words.ne_nil_of_mem_split)
        fun _ hw _ => Words.isSeparator_of_mem_split hw
    have hjoin : ∀ u ≠ unknown, u.join (Words.split (t.applyChars cs)) = u.join (Words.split cs) :=
      fun u hu => by rw [hsplit, join_map_writeNext hwords hu]
    -- the words of both names make an identifier, since they do in the snake casing
    have hbefore : Identifier.isValidChars (Words.split cs).flatten = true := by
      rw [← isValidChars_join_split hcs hsafe]
      exact hvalid hsafe
    have hafter : Identifier.isValidChars (Words.split (t.applyChars cs)).flatten = true := by
      rw [← isValidChars_join_split hsnake hsafe, hjoin t hknown]
      exact hvalid hsafe
    rw [applyChars_of_isValidChars hsnake hu hafter, hjoin u hu,
      applyChars_of_isValidChars hcs hu hbefore]

end Texts

/-- **A snake casing loses no words.**  A name in ASCII that was brought into it is in every casing
as if it had not been.  So both snake casings keep what they have made, and each makes of the other
what it makes of the name. -/
theorem apply_apply_of_snake (ht : t = snake ∨ t = screamingSnake) (hu : u ≠ unknown)
    {name : String} (h : ∀ c ∈ name.toList, Unicode.isAscii c = true) :
    u.apply (t.apply name) = u.apply name := by
  rw [apply, apply, apply, String.toList_ofList, applyChars_applyChars h ht hu]

/-- Separators of all kinds, a run of capitals and a digit, and a name that snake casing leaves
alone because its words make no identifier. -/
theorem apply_apply_of_snake_mixed :
    let name := "_HTTPServer2-xA b"
    camel.apply (screamingSnake.apply name) = "httpserver2XAB" ∧
      screamingSnake.apply (snake.apply name) = "HTTPSERVER2_X_A_B" ∧
      snake.apply (snake.apply name) = snake.apply name ∧
      train.apply (snake.apply "2 b") = "2-B" := by
  intro name
  have hname : ∀ c ∈ name.toList, Unicode.isAscii c = true := List.all_eq_true.1 (by decide)
  have hshort : ∀ c ∈ "2 b".toList, Unicode.isAscii c = true := List.all_eq_true.1 (by decide)
  refine ⟨?_, ?_, apply_apply_of_snake (by decide) (by decide) hname, ?_⟩
  · rw [apply_apply_of_snake (by decide) (by decide) hname]
    decide
  · rw [apply_apply_of_snake (by decide) (by decide) hname]
    decide
  · rw [apply_apply_of_snake (by decide) (by decide) hshort]
    decide

end Casing

/-! ### All casings -/

namespace Words

variable {cs : List Char} (hcs : ∀ c ∈ cs, Unicode.isAscii c = true)

include hcs

/-- The skeleton of a text in ASCII is what is left of it without separators, in lower case. -/
theorem lowercase_withoutSeparators :
    Unicode.lowercase (withoutSeparators cs) = skeleton cs := by
  rw [withoutSeparators,
    Unicode.lowercase_of_all_isAscii fun c hc => hcs c (List.mem_of_mem_filter hc)]
  rfl

end Words

namespace Casing

/-- **A casing changes letter case and separators only.**  What is left of a name in ASCII without
them is the same in every casing.  So names that are converted to one name differ in nothing
else. -/
theorem lowercase_apply {name : String} (h : ∀ c ∈ name.toList, Unicode.isAscii c = true) :
    (∀ t : Casing, Unicode.lowercase (Words.withoutSeparators (t.apply name).toList) =
        Unicode.lowercase (Words.withoutSeparators name.toList)) ∧
      ∀ other : String, (∀ c ∈ other.toList, Unicode.isAscii c = true) →
        ∀ n m : Naming, n.convert name = m.convert other →
          Unicode.lowercase (Words.withoutSeparators name.toList) =
            Unicode.lowercase (Words.withoutSeparators other.toList) := by
  refine ⟨fun t => ?_, fun other hother n m heq => ?_⟩
  · rw [apply, String.toList_ofList,
      Words.lowercase_withoutSeparators (isAscii_of_mem_applyChars h t),
      Words.lowercase_withoutSeparators h, skeleton_applyChars h]
  · rw [Words.lowercase_withoutSeparators h, Words.lowercase_withoutSeparators hother,
      ← n.skeleton_convert h, heq, m.skeleton_convert hother]

/-- Two names with one name in snake casing, and the first of them in a casing with hyphens. -/
theorem lowercase_apply_mixed :
    let name := "Get_X2d point"
    let n : Naming := ⟨.pascal, .snake⟩
    let left := ['g', 'e', 't', 'x', '2', 'd', 'p', 'o', 'i', 'n', 't']
    n.convert name = n.convert "getX2D-Point" ∧
      Unicode.lowercase (Words.withoutSeparators (train.apply name).toList) = left ∧
      Unicode.lowercase (Words.withoutSeparators "getX2D-Point".toList) = left := by
  intro name n left
  have hname : ∀ c ∈ name.toList, Unicode.isAscii c = true := List.all_eq_true.1 (by decide)
  have hother : ∀ c ∈ "getX2D-Point".toList, Unicode.isAscii c = true :=
    List.all_eq_true.1 (by decide)
  have heq : n.convert name = n.convert "getX2D-Point" := by decide
  have hleft : Unicode.lowercase (Words.withoutSeparators name.toList) = left := by decide
  obtain ⟨hcasings, hnames⟩ := lowercase_apply hname
  exact ⟨heq, (hcasings train).trans hleft, (hnames _ hother n n heq).symm.trans hleft⟩

end Casing

end EnumAccessors

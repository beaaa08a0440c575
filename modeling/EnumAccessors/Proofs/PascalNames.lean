import EnumAccessors.Proofs.Recasing

/-!
# Names in Pascal casing

Where no preference is given every name is brought into Pascal casing.  For an identifier in ASCII
without low lines this can be told character by character (`Casing.applyChars_pascal`): behind the
first character there are capitals only where letter case rises.

* `Naming.convert_default_eq_self_iff`: which of these names stay as they are.
-/

namespace EnumAccessors

namespace Words

variable {c p : Char} {cs w word : List Char}

/-- In an identifier no separator is possible but the low line. -/
theorem isSeparator_of_isValidChars (h : Identifier.isValidChars cs = true) (hline : '_' ∉ cs) :
    ∀ c ∈ cs, isSeparator c = false := by
  intro c hc
  have hpart := List.all_eq_true.1 (Identifier.all_isPart_of_isValidChars h) c hc
  simp only [isSeparator, Bool.or_eq_false_iff, beq_eq_false_iff_ne]
  refine ⟨⟨?_, ?_⟩, ?_⟩
  · rintro rfl
    exact hline hc
  · rintro rfl
    exact absurd hpart (by decide)
  · rintro rfl
    exact absurd hpart (by decide)

theorem capitalize_concat (hw : ∀ x ∈ w ++ [c], Unicode.isAscii x = true) (hne : w ≠ []) :
    capitalize (w ++ [c]) = capitalize w ++ [c.toLower] := by
  cases w with
  | nil => contradiction
  | cons x rest =>
    rw [List.cons_append] at hw ⊢
    obtain ⟨hx, hrest⟩ := List.forall_mem_cons.1 hw
    rw [capitalize_cons hx, capitalize_cons hx, Unicode.lowercase_of_all_isAscii hrest,
      Unicode.lowercase_of_all_isAscii fun y hy => hrest y (List.mem_append_left _ hy),
      List.map_append, List.map_singleton, List.cons_append]

/-- What Pascal casing makes of the characters behind `p`, if none of them is a separator: they are
in lower case but for those with which letter case rises. -/
def pascalAfter (p : Char) : List Char → List Char
  | [] => []
  | c :: rest => (if isRise p c then c else c.toLower) :: pascalAfter c rest

@[simp] theorem length_pascalAfter (p : Char) (cs : List Char) :
    (pascalAfter p cs).length = cs.length := by
  induction cs generalizing p with
  | nil => rfl
  | cons c rest ih => rw [pascalAfter, List.length_cons, List.length_cons, ih]

theorem pascalAfter_append (p : Char) (xs ys : List Char) : pascalAfter p (xs ++ ys) =
    pascalAfter p xs ++ pascalAfter ((p :: xs).getLast (List.cons_ne_nil p xs)) ys := by
  induction xs generalizing p with
  | nil => rfl
  | cons x xs ih =>
    rw [List.cons_append, pascalAfter, pascalAfter, ih, List.getLast_cons_cons, List.cons_append]

/-- The invariant of the run: the word that it is in is capitalized, and the rest goes on from its
last character. -/
theorem flatMap_capitalize_splitFrom (hword : ∀ x ∈ p :: word, Unicode.isAscii x = true)
    (hcs : ∀ x ∈ cs, Unicode.isAscii x = true) (hseparator : ∀ x ∈ cs, isSeparator x = false) :
    (splitFrom (p :: word) cs).flatMap capitalize =
      capitalize (p :: word).reverse ++ pascalAfter p cs := by
  induction cs generalizing p word with
  | nil => simp [splitFrom, finish, pascalAfter]
  | cons c rest ih =>
    obtain ⟨hc, hrest⟩ := List.forall_mem_cons.1 hcs
    obtain ⟨hletter, hletters⟩ := List.forall_mem_cons.1 hseparator
    have hnot : ¬ isSeparator c = true := by simp [hletter]
    by_cases hrise : isRise p c = true
    · have hupper : c.isUpper = true := by
        rw [← (Unicode.hasAsciiCase hc).upper]
        exact (Bool.and_eq_true_iff.1 hrise).2
      have hcapital : capitalize [c] = [c] := by
        rw [capitalize_cons hc, (Unicode.hasAsciiCase hc).toUpper_eq_self hupper]
        rfl
      rw [splitFrom, if_neg hnot, if_pos hrise, List.flatMap_append,
        ih (List.forall_mem_singleton.2 hc) hrest hletters, pascalAfter, if_pos hrise,
        List.reverse_singleton, hcapital]
      simp [finish]
    · have hgrown : ∀ x ∈ c :: p :: word, Unicode.isAscii x = true :=
        List.forall_mem_cons.2 ⟨hc, hword⟩
      have hcapital : capitalize (c :: p :: word).reverse =
          capitalize (p :: word).reverse ++ [c.toLower] := by
        rw [List.reverse_cons]
        refine capitalize_concat (fun x hx => hgrown x ?_) (by simp)
        rwa [← List.reverse_cons, List.mem_reverse] at hx
      rw [splitFrom, if_neg hnot, if_neg hrise, ih hgrown hrest hletters, pascalAfter,
        if_neg hrise, hcapital, List.append_assoc, List.singleton_append]

theorem pascalAfter_eq_self_iff (h : ∀ x ∈ p :: cs, Unicode.isAscii x = true) :
    pascalAfter p cs = cs ↔
      (p :: cs).IsChain fun p c => c.isUpper = true → p.isLower = true := by
  induction cs generalizing p with
  | nil => simp [pascalAfter]
  | cons c rest ih =>
    obtain ⟨hp, hcs⟩ := List.forall_mem_cons.1 h
    have hc := hcs c List.mem_cons_self
    have hrise : isRise p c = (p.isLower && c.isUpper) := by
      rw [isRise, (Unicode.hasAsciiCase hp).lower, (Unicode.hasAsciiCase hc).upper]
    have hkept : (if isRise p c then c else c.toLower) = c ↔
        (c.isUpper = true → p.isLower = true) := by
      rw [ite_eq_left_iff, (Unicode.hasAsciiCase hc).toLower_eq_self_iff, hrise]
      cases p.isLower <;> cases c.isUpper <;> simp
    rw [pascalAfter, List.cons.injEq, List.isChain_cons_cons, ih hcs, hkept]

end Words

namespace Casing

theorem join_pascal (words : List (List Char)) :
    pascal.join words = words.flatMap Words.capitalize := by
  cases words <;> rfl

/-- An identifier in ASCII without separators in Pascal casing, character by character. -/
theorem applyChars_pascal {c : Char} {rest : List Char}
    (hvalid : Identifier.isValidChars (c :: rest) = true)
    (hascii : ∀ x ∈ c :: rest, Unicode.isAscii x = true) (hline : '_' ∉ c :: rest) :
    pascal.applyChars (c :: rest) = c.toUpper :: Words.pascalAfter c rest := by
  have hseparator := Words.isSeparator_of_isValidChars hvalid hline
  obtain ⟨hc, hrest⟩ := List.forall_mem_cons.1 hascii
  obtain ⟨hletter, hletters⟩ := List.forall_mem_cons.1 hseparator
  have hsplit : Words.split (c :: rest) = Words.splitFrom [c] rest := by
    simp [Words.split, Words.splitFrom, hletter]
  have hflat : (Words.split (c :: rest)).flatten = c :: rest := by
    rw [Words.flatten_split, List.filter_eq_self.2]
    simpa using hseparator
  rw [applyChars_of_isValidChars hascii (by decide) (by rwa [hflat]), join_pascal, hsplit,
    Words.flatMap_capitalize_splitFrom (List.forall_mem_singleton.2 hc) hrest hletters,
    List.reverse_singleton, Words.capitalize_cons hc]
  rfl

theorem applyChars_pascal_eq_self_iff {cs : List Char}
    (hvalid : Identifier.isValidChars cs = true) (hascii : ∀ c ∈ cs, Unicode.isAscii c = true)
    (hline : '_' ∉ cs) :
    pascal.applyChars cs = cs ↔ (∃ c rest, cs = c :: rest ∧ c.isUpper = true) ∧
      cs.IsChain fun p c => c.isUpper = true → p.isLower = true := by
  cases cs with
  | nil => cases hvalid
  | cons c rest =>
    have hstart : c.toUpper = c ↔ c.isUpper = true :=
      (Unicode.hasAsciiCase (hascii c List.mem_cons_self)).toUpper_eq_self_iff
        (Bool.and_eq_true_iff.1 hvalid).1 fun hc => hline (hc ▸ List.mem_cons_self)
    rw [applyChars_pascal hvalid hascii hline, List.cons.injEq, hstart,
      Words.pascalAfter_eq_self_iff hascii]
    simp

/-- A character behind another one is kept if letter case rises with it and else is in lower
case. -/
theorem getElem?_applyChars_pascal {before behind : List Char} {p c : Char}
    (hvalid : Identifier.isValidChars (before ++ p :: c :: behind) = true)
    (hascii : ∀ x ∈ before ++ p :: c :: behind, Unicode.isAscii x = true)
    (hline : '_' ∉ before ++ p :: c :: behind) :
    (pascal.applyChars (before ++ p :: c :: behind))[before.length + 1]? =
      some (if Words.isRise p c then c else c.toLower) := by
  cases before with
  | nil =>
    rw [List.nil_append, applyChars_pascal hvalid hascii hline]
    simp [Words.pascalAfter]
  | cons b before =>
    have hsplit : b :: before ++ p :: c :: behind = b :: ((before ++ [p]) ++ c :: behind) := by simp
    rw [hsplit] at hvalid hascii hline ⊢
    have hlast : (b :: (before ++ [p])).getLast (List.cons_ne_nil _ _) = p := by simp
    rw [applyChars_pascal hvalid hascii hline, Words.pascalAfter_append, hlast, Words.pascalAfter,
      List.getElem?_cons_succ, List.getElem?_append_right (by simp)]
    simp

end Casing

namespace Naming

/-- **Names that stay as they are without a preference.**  An identifier in ASCII without low lines
is kept exactly if it begins with a capital and every other capital follows a small letter.  What
follows a capital or a digit is brought into lower case, so that runs of capitals and capitals
behind digits are never kept. -/
theorem convert_default_eq_self_iff {name : String} (hvalid : Identifier.isValid name = true)
    (hascii : ∀ c ∈ name.toList, Unicode.isAscii c = true) (hline : '_' ∉ name.toList) :
    (default.convert name = name ↔
      (∃ c rest, name.toList = c :: rest ∧ c.isUpper = true) ∧
        ∀ before p c behind, name.toList = before ++ p :: c :: behind →
          c.isUpper = true → p.isLower = true) ∧
    ∀ before p c behind, name.toList = before ++ p :: c :: behind →
      p.isUpper = true ∨ p.isDigit = true →
        (default.convert name).toList[before.length + 1]? = some c.toLower := by
  have hconvert : (default.convert name).toList = Casing.pascal.applyChars name.toList :=
    String.toList_ofList
  constructor
  · rw [← String.toList_inj, hconvert, Casing.applyChars_pascal_eq_self_iff hvalid hascii hline,
      List.isChain_iff_forall_rel_of_append_cons_cons]
    exact and_congr_right' ⟨fun h _ _ _ _ heq => h heq, fun h _ _ _ _ heq => h _ _ _ _ heq⟩
  · intro before p c behind heq hp
    rw [Identifier.isValid, heq] at hvalid
    rw [heq] at hascii hline
    have hpascii : Unicode.isAscii p = true := hascii p (by simp)
    have hlevel : Words.isRise p c = false := by
      rw [Words.isRise, (Unicode.hasAsciiCase hpascii).lower,
        (Unicode.hasAsciiCase hpascii).lower_eq_false hp, Bool.false_and]
    rw [hconvert, heq, Casing.getElem?_applyChars_pascal hvalid hascii hline, hlevel]
    rfl

/-- A name with a digit and a capital of its own is kept, and one with a run of capitals and a
capital behind a digit is not. -/
theorem convert_default_eq_self_iff_digits :
    default.convert "GetX2dPoint" = "GetX2dPoint" ∧
      default.convert "HTTPGet2D" ≠ "HTTPGet2D" ∧
      (default.convert "HTTPGet2D").toList[8]? = some 'd' := by
  have hkept := @convert_default_eq_self_iff "GetX2dPoint" (by decide)
    (List.all_eq_true.1 (by decide)) (by decide)
  have hrecased := @convert_default_eq_self_iff "HTTPGet2D" (by decide)
    (List.all_eq_true.1 (by decide)) (by decide)
  have hcapitals : "GetX2dPoint".toList.IsChain
      fun p c => c.isUpper = true → p.isLower = true := by decide
  rw [List.isChain_iff_forall_rel_of_append_cons_cons] at hcapitals
  refine ⟨hkept.1.2 ⟨⟨'G', _, rfl, by decide⟩, fun _ _ _ _ heq => hcapitals heq⟩, fun h => ?_,
    hrecased.2 ['H', 'T', 'T', 'P', 'G', 'e', 't'] '2' 'D' [] rfl (.inr (by decide))⟩
  exact absurd ((hrecased.1.1 h).2 [] 'H' 'T' ['T', 'P', 'G', 'e', 't', '2', 'D'] rfl (by decide))
    (by decide)

end Naming

end EnumAccessors

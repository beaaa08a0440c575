/-!
# Replacing a text

Every occurrence of one text in another is replaced, from the left and without overlaps
(`Text.replace`).
-/

namespace EnumAccessors

namespace Text

/-- The replacement in a text whose first `skip` characters belong to an occurrence that has been
replaced. -/
def replaceFrom (old new : List Char) : Nat → List Char → List Char
  | _, [] => []
  | skip + 1, _ :: rest => replaceFrom old new skip rest
  | 0, c :: rest =>
    if old.isPrefixOf (c :: rest) then new ++ replaceFrom old new (old.length - 1) rest
    else c :: replaceFrom old new 0 rest

/-- The text with each occurrence of `old`, which is not empty, replaced by `new`. -/
def replace (old new cs : List Char) : List Char := replaceFrom old new 0 cs

/-- The characters that belong to an occurrence are dropped. -/
theorem replaceFrom_eq (old new : List Char) (skip : Nat) (cs : List Char) :
    replaceFrom old new skip cs = replace old new (cs.drop skip) := by
  induction cs generalizing skip with
  | nil => cases skip <;> simp [replace, replaceFrom]
  | cons c rest ih =>
    cases skip with
    | zero => rfl
    | succ skip => simp [replaceFrom, ih]

/-- An occurrence at the front is replaced, and the rest after it. -/
theorem replace_append {old : List Char} (h : old ≠ []) (new cs : List Char) :
    replace old new (old ++ cs) = new ++ replace old new cs := by
  obtain ⟨c, tail, rfl⟩ := List.exists_cons_of_ne_nil h
  have hp : (c :: tail).isPrefixOf (c :: (tail ++ cs)) = true := by
    rw [List.isPrefixOf_iff_prefix]; exact ⟨cs, rfl⟩
  rw [List.cons_append, replace, replaceFrom, if_pos hp, replaceFrom_eq]
  simp

/-- A character that no occurrence starts with is kept. -/
theorem replace_cons {old : List Char} {c : Char} {cs : List Char} (h : ¬ old <+: c :: cs)
    (new : List Char) : replace old new (c :: cs) = c :: replace old new cs := by
  have hp : ¬ old.isPrefixOf (c :: cs) = true := by rwa [List.isPrefixOf_iff_prefix]
  simp [replace, replaceFrom, hp]

/-- A text without occurrences stays as it is. -/
theorem replace_eq_self {old cs : List Char} (h : ¬ old <:+: cs) (new : List Char) :
    replace old new cs = cs := by
  induction cs with
  | nil => rfl
  | cons c rest ih =>
    have hr : ¬ old <:+: rest := fun hi => h (hi.trans (List.suffix_cons c rest).isInfix)
    rw [replace_cons (fun hp => h hp.isInfix), ih hr]

end Text

end EnumAccessors

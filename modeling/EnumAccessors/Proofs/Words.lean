import EnumAccessors.Naming.Words
import Mathlib.Data.List.SplitBy

/-!
# Where words end

`Words.split` runs over a text once and keeps the word that it is in.  Here is what it finds,
told without a run.

* `Words.split_append_separator`: a separator ends a word, whatever stands around it.
* `Words.split_intercalate`: words joined by a separator are found again.
* `Words.split_eq_splitBy`: a text without separators is cut at its rises and nowhere else.
* `Words.areJoined_split_iff`: which neighbours are in one word.
* `Words.split_eq_tokens`: the words of a text are its tokens (`Words.tokens`), which are found in
  two stages.
-/

namespace EnumAccessors

namespace Words

variable {a b c : Char} {cs word : List Char}

/-! ### The run over a text -/

/-- One character ends words or not, and the run goes on in a word that is empty behind a
separator and else ends with the character. -/
theorem exists_splitFrom_cons (word : List Char) (c : Char) :
    ∃ ws u, (isSeparator c = false → ∃ v, u = c :: v) ∧
      ∀ cs, splitFrom word (c :: cs) = ws ++ splitFrom u cs := by
  by_cases hc : isSeparator c = true
  · refine ⟨finish word, [], fun h => by simp_all, fun cs => ?_⟩
    cases word <;> rw [splitFrom, if_pos hc]
  · cases word with
    | nil => exact ⟨[], [c], fun _ => ⟨[], rfl⟩, fun cs => by rw [splitFrom, if_neg hc]; rfl⟩
    | cons p word =>
      by_cases hrise : isRise p c = true
      · refine ⟨finish (p :: word), [c], fun _ => ⟨[], rfl⟩, fun cs => ?_⟩
        rw [splitFrom, if_neg hc, if_pos hrise]
      · refine ⟨[], c :: p :: word, fun _ => ⟨p :: word, rfl⟩, fun cs => ?_⟩
        rw [splitFrom, if_neg hc, if_neg hrise, List.nil_append]

/-- What has been read of a text gives the words that have ended and the one the run is in. -/
theorem exists_splitFrom_append (word xs : List Char) :
    ∃ ws u, ∀ ys, splitFrom word (xs ++ ys) = ws ++ splitFrom u ys := by
  induction xs generalizing word with
  | nil => exact ⟨[], word, fun ys => rfl⟩
  | cons x xs ih =>
    obtain ⟨ws, u, -, hstep⟩ := exists_splitFrom_cons word x
    obtain ⟨vs, v, hrun⟩ := ih u
    exact ⟨ws ++ vs, v, fun ys => by
      rw [List.cons_append, hstep, hrun, List.append_assoc]⟩

/-- Behind a character that is no separator the run is in a word that ends with it. -/
theorem exists_split_append_cons (ha : isSeparator a = false) (xs : List Char) :
    ∃ ws u, ∀ ys, split (xs ++ a :: ys) = ws ++ splitFrom (a :: u) ys := by
  obtain ⟨ws, u, hrun⟩ := exists_splitFrom_append [] xs
  obtain ⟨vs, v, hv, hstep⟩ := exists_splitFrom_cons u a
  obtain ⟨v, rfl⟩ := hv ha
  exact ⟨ws ++ vs, v, fun ys => by rw [split, hrun, hstep, List.append_assoc]⟩

/-- The word that the run is in is the beginning of the next word. -/
theorem exists_splitFrom_eq_cons (hne : word ≠ []) (cs : List Char) :
    ∃ v vs, splitFrom word cs = (word.reverse ++ v) :: vs := by
  have hfinish : ∀ vs, finish word ++ vs = (word.reverse ++ []) :: vs := by
    cases word with
    | nil => contradiction
    | cons p word => simp [finish]
  fun_induction splitFrom word cs with
  | case1 word => exact ⟨[], [], by simpa using hfinish []⟩
  | case2 word c rest hc ih => exact ⟨[], _, hfinish _⟩
  | case3 c rest hc ih => contradiction
  | case4 c rest hc p word hrise ih => exact ⟨[], _, hfinish _⟩
  | case5 c rest hc p word hrise ih =>
    obtain ⟨v, vs, h⟩ := ih (List.cons_ne_nil _ _) (by simp [finish])
    exact ⟨c :: v, vs, by rw [h]; simp⟩

/-! ### Separators -/

/-- A text without its separators. -/
def withoutSeparators (cs : List Char) : List Char := cs.filter fun c => !isSeparator c

/-- A separator ends a word and is forgotten. -/
theorem split_append_separator (hc : isSeparator c = true) (xs ys : List Char) :
    split (xs ++ c :: ys) = split xs ++ split ys := by
  obtain ⟨ws, u, hrun⟩ := exists_splitFrom_append [] xs
  have hcons : splitFrom u (c :: ys) = finish u ++ split ys := by
    cases u <;> rw [splitFrom, if_pos hc, split]
  have hxs : split xs = ws ++ finish u := by
    have h := hrun []
    rwa [List.append_nil, splitFrom] at h
  rw [split, hrun, hcons, hxs, List.append_assoc]

/-- Words that are joined by a separator are found again. -/
theorem split_intercalate (hc : isSeparator c = true) {words : List (List Char)}
    (h : ∀ w ∈ words, split w = [w]) : split ([c].intercalate words) = words := by
  induction words with
  | nil => rfl
  | cons w rest ih =>
    obtain ⟨hw, hrest⟩ := List.forall_mem_cons.1 h
    cases rest with
    | nil => rw [List.intercalate_singleton, hw]
    | cons w' rest =>
      rw [List.intercalate_cons_cons, List.append_assoc, List.singleton_append,
        split_append_separator hc, hw, ih hrest, List.singleton_append]

/-- No separator is in a word. -/
theorem isSeparator_of_mem_split {w : List Char} (hw : w ∈ split cs) (hc : c ∈ w) :
    isSeparator c = false := by
  have hflat : c ∈ (split cs).flatten := List.mem_flatten.2 ⟨w, hw, hc⟩
  rw [flatten_split] at hflat
  simpa using (List.mem_filter.1 hflat).2

/-! ### Rises -/

theorem finish_eq_splitBy (hword : word.IsChain fun c p => isRise p c = false) :
    finish word = word.reverse.splitBy fun p c => !isRise p c := by
  cases word with
  | nil => rfl
  | cons p word =>
    have hchain : (p :: word).reverse.IsChain fun p c => (!isRise p c) = true := by
      simpa only [List.isChain_reverse, Bool.not_eq_true'] using hword
    rw [List.splitBy_of_isChain (by simp) hchain, finish]
    simp

/-- The invariant of a run over a text without separators: there is no rise in the word that the
run is in. -/
theorem splitFrom_eq_splitBy (hcs : ∀ c ∈ cs, isSeparator c = false)
    (hword : word.IsChain fun c p => isRise p c = false) :
    splitFrom word cs = (word.reverse ++ cs).splitBy fun p c => !isRise p c := by
  fun_induction splitFrom word cs with
  | case1 word => rw [finish_eq_splitBy hword, List.append_nil]
  | case2 word c rest hc ih =>
    rw [hcs c List.mem_cons_self] at hc
    contradiction
  | case3 c rest hc ih =>
    exact ih (List.forall_mem_of_forall_mem_cons hcs) (List.isChain_singleton c)
  | case4 c rest hc p word hrise ih =>
    have hlast : ∀ x ∈ (p :: word).reverse.getLast?, (!isRise x c) = false := by
      simp [hrise]
    rw [List.splitBy_append_cons rest hlast, ← finish_eq_splitBy hword,
      ih (List.forall_mem_of_forall_mem_cons hcs) (List.isChain_singleton c)]
    rfl
  | case5 c rest hc p word hrise ih =>
    have hlevel : isRise p c = false := by simpa using hrise
    rw [ih (List.forall_mem_of_forall_mem_cons hcs) (List.isChain_cons_cons.2 ⟨hlevel, hword⟩)]
    simp

/-- A text without separators is cut at its rises. -/
theorem split_eq_splitBy (h : ∀ c ∈ cs, isSeparator c = false) :
    split cs = cs.splitBy fun p c => !isRise p c :=
  splitFrom_eq_splitBy h List.isChain_nil

/-- A text without separators and rises is one word. -/
theorem split_eq_singleton (hne : cs ≠ []) (h : ∀ c ∈ cs, isSeparator c = false)
    (hlevel : cs.IsChain fun p c => isRise p c = false) : split cs = [cs] := by
  rw [split_eq_splitBy h]
  exact List.splitBy_of_isChain hne (by simpa only [Bool.not_eq_true'] using hlevel)

/-- In one letter case there is no rise. -/
theorem isChain_level (h : (∀ c ∈ cs, Unicode.isUppercase c = false) ∨
    ∀ c ∈ cs, Unicode.isLowercase c = false) : cs.IsChain fun p c => isRise p c = false := by
  rw [List.isChain_iff_forall_rel_of_append_cons_cons]
  rintro p c before behind rfl
  rcases h with h | h
  · rw [isRise, h c (by simp), Bool.and_false]
  · rw [isRise, h p (by simp), Bool.false_and]

/-- A rise ends a word, and both its sides are kept. -/
theorem split_append_rise (ha : isSeparator a = false) (hb : isSeparator b = false)
    (hrise : isRise a b = true) (xs ys : List Char) :
    split (xs ++ a :: b :: ys) = split (xs ++ [a]) ++ split (b :: ys) := by
  obtain ⟨ws, u, hrun⟩ := exists_split_append_cons ha xs
  have hfrom : splitFrom (a :: u) (b :: ys) = splitFrom (a :: u) [] ++ split (b :: ys) := by
    simp [splitFrom, split, hb, hrise]
  rw [hrun, hrun, hfrom, List.append_assoc]

/-! ### Neighbours -/

/-- Among words two characters are neighbours in one, with the characters of `before` in front of
them and those of `behind` behind. -/
def AreJoined (words : List (List Char)) (before : List Char) (a b : Char) (behind : List Char) :
    Prop :=
  ∃ ws u v vs, words = ws ++ (u ++ a :: b :: v) :: vs ∧ ws.flatten ++ u = before ∧
    v ++ vs.flatten = behind

/-- The last character of a word and the first one of the next are not in one word. -/
theorem AreJoined.flatten_ne {xs ys : List (List Char)} {before behind : List Char}
    (h : AreJoined (xs ++ ys) before a b behind) : xs.flatten ≠ before ++ [a] := by
  obtain ⟨ws, u, v, vs, hwords, rfl, -⟩ := h
  intro hflat
  have hlength := congrArg List.length hflat
  -- the end of `xs` would be in the middle of a word
  rcases List.append_eq_append_iff.1 hwords with ⟨zs, rfl, -⟩ | ⟨zs, rfl, hzs⟩
  · simp only [List.flatten_append, List.length_append, List.length_singleton] at hlength
    omega
  · cases zs with
    | nil =>
      simp only [List.append_nil, List.length_append, List.length_singleton] at hlength
      omega
    | cons z zs =>
      obtain ⟨rfl, -⟩ := List.cons.inj hzs
      simp only [List.flatten_append, List.flatten_cons, List.length_append, List.length_cons,
        List.length_nil] at hlength
      omega

theorem areJoined_split (ha : isSeparator a = false) (hb : isSeparator b = false)
    (hlevel : isRise a b = false) (xs ys : List Char) :
    AreJoined (split (xs ++ a :: b :: ys)) (withoutSeparators xs) a b (withoutSeparators ys) := by
  obtain ⟨ws, u, hrun⟩ := exists_split_append_cons ha xs
  obtain ⟨v, vs, hword⟩ := exists_splitFrom_eq_cons (List.cons_ne_nil b (a :: u)) ys
  have hsplit : split (xs ++ a :: b :: ys) = ws ++ (u.reverse ++ a :: b :: v) :: vs := by
    have hfrom : splitFrom (a :: u) (b :: ys) = splitFrom (b :: a :: u) ys := by
      simp [splitFrom, hb, hlevel]
    rw [hrun, hfrom, hword]
    simp
  -- the words hold the text without separators, up to `a` and as a whole
  have hxs : ws.flatten ++ u.reverse = withoutSeparators xs := by
    have hflat := (flatten_split _).symm.trans (congrArg List.flatten (hrun []))
    simpa [splitFrom, finish, ha, withoutSeparators, ← List.append_assoc] using hflat.symm
  have hwhole : (ws.flatten ++ u.reverse) ++ a :: b :: (v ++ vs.flatten) =
      withoutSeparators xs ++ a :: b :: withoutSeparators ys := by
    have hflat := (flatten_split _).symm.trans (congrArg List.flatten hsplit)
    simpa [ha, hb, withoutSeparators] using hflat.symm
  rw [hxs] at hwhole
  exact ⟨ws, u.reverse, v, vs, hsplit, hxs, by simpa using hwhole⟩

/-- Neighbours are in one word unless one is a separator or letter case rises between them. -/
theorem areJoined_split_iff (xs ys : List Char) :
    AreJoined (split (xs ++ a :: b :: ys)) (withoutSeparators xs) a b (withoutSeparators ys) ↔
      isSeparator a = false ∧ isSeparator b = false ∧ isRise a b = false := by
  constructor
  · intro h
    obtain ⟨ws, u, v, vs, hwords, -, -⟩ := id h
    have hword : u ++ a :: b :: v ∈ split (xs ++ a :: b :: ys) := by
      rw [hwords]
      simp
    have ha : isSeparator a = false := isSeparator_of_mem_split hword (by simp)
    have hb : isSeparator b = false := isSeparator_of_mem_split hword (by simp)
    refine ⟨ha, hb, Bool.eq_false_iff.2 fun hrise => ?_⟩
    rw [split_append_rise ha hb hrise] at h
    apply h.flatten_ne
    rw [flatten_split]
    simp [withoutSeparators, ha]
  · rintro ⟨ha, hb, hlevel⟩
    exact areJoined_split ha hb hlevel xs ys

/-! ### Two stages -/

/-- The segments between separators, cut at their rises, without empty pieces. -/
def tokens (cs : List Char) : List (List Char) :=
  ((cs.splitOnP isSeparator).flatMap fun segment =>
    segment.splitBy fun p c => !isRise p c).filter fun w => !w.isEmpty

/-- The invariant of the first stage: no separator is in the segment that has begun. -/
theorem flatMap_splitOnPPrepend (hword : ∀ c ∈ word, isSeparator c = false) :
    (cs.splitOnPPrepend isSeparator word).flatMap (fun segment =>
      segment.splitBy fun p c => !isRise p c) = split (word.reverse ++ cs) := by
  have hsegment : split word.reverse = word.reverse.splitBy fun p c => !isRise p c :=
    split_eq_splitBy (by simpa using hword)
  induction cs generalizing word with
  | nil => simp [hsegment]
  | cons c cs ih =>
    rw [List.splitOnPPrepend_cons_eq_if]
    split_ifs with hc
    · have hrest := ih (List.forall_mem_nil _) rfl
      rw [List.flatMap_cons, ← hsegment, split_append_separator hc,
        List.splitOnP_eq_splitOnPPrepend, hrest, List.reverse_nil, List.nil_append]
    · have hletter : isSeparator c = false := Bool.eq_false_iff.2 hc
      have hbegun : ∀ x ∈ c :: word, isSeparator x = false :=
        List.forall_mem_cons.2 ⟨hletter, hword⟩
      rw [ih hbegun (split_eq_splitBy fun x hx => hbegun x (List.mem_reverse.1 hx)),
        List.reverse_cons, List.append_assoc, List.singleton_append]

theorem split_eq_flatMap_splitOnP (cs : List Char) : split cs =
    (cs.splitOnP isSeparator).flatMap fun segment => segment.splitBy fun p c => !isRise p c := by
  rw [List.splitOnP_eq_splitOnPPrepend, flatMap_splitOnPPrepend (List.forall_mem_nil _)]
  rfl

/-- **The words of a text are its tokens.**  So neighbours are in one word exactly if neither is a
separator and they are no rise, every word has characters and none of them is a separator, and the
words one after another are the text without its separators. -/
theorem split_eq_tokens (cs : List Char) :
    split cs = tokens cs ∧
      (∀ before a b behind, cs = before ++ a :: b :: behind →
        (AreJoined (split cs) (withoutSeparators before) a b (withoutSeparators behind) ↔
          isSeparator a = false ∧ isSeparator b = false ∧
            ¬ (Unicode.isLowercase a = true ∧ Unicode.isUppercase b = true))) ∧
      (∀ w ∈ split cs, w ≠ [] ∧ ∀ c ∈ w, isSeparator c = false) ∧
      (split cs).flatten = withoutSeparators cs := by
  refine ⟨?_, ?_, fun w hw => ⟨ne_nil_of_mem_split hw, fun c => isSeparator_of_mem_split hw⟩,
    flatten_split cs⟩
  · -- no piece is empty, so that none is dropped
    have hne : ∀ w ∈ split cs, (!w.isEmpty) = true := fun w hw => by
      simpa using ne_nil_of_mem_split hw
    rw [tokens, ← split_eq_flatMap_splitOnP, List.filter_eq_self.2 hne]
  · rintro before a b behind rfl
    rw [areJoined_split_iff, isRise, Bool.and_eq_false_iff, not_and_or, Bool.not_eq_true,
      Bool.not_eq_true]

/-- Rises beyond ASCII, one that a separator prevents, and a digit between capitals. -/
theorem split_eq_tokens_mixed :
    let cs := ['i', 'D', 'é', '-', 'É', 'é', 'É', '2', 'B', '_']
    tokens cs = [['i'], ['D', 'é'], ['É', 'é'], ['É', '2', 'B']] ∧
      AreJoined (split cs) ['i'] 'D' 'é' ['É', 'é', 'É', '2', 'B'] ∧
      ¬ AreJoined (split cs) ['i', 'D', 'é', 'É'] 'é' 'É' ['2', 'B'] := by
  intro cs
  obtain ⟨htokens, hjoined, -⟩ := split_eq_tokens cs
  refine ⟨htokens ▸ by decide, ?_, ?_⟩
  · exact (hjoined ['i'] 'D' 'é' ['-', 'É', 'é', 'É', '2', 'B', '_'] rfl).2 (by decide)
  · exact fun h => absurd ((hjoined ['i', 'D', 'é', '-', 'É'] 'é' 'É' ['2', 'B', '_'] rfl).1 h)
      (by decide)

end Words

end EnumAccessors

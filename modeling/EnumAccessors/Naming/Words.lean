import EnumAccessors.Unicode.LetterCase

/-!
# The words of a name

Words end at a low line, a hyphen and a space, and between a lower-case character and an
upper-case one (`Words.split`).  Digits stay with the word before them, and a run of capitals is
one word.
-/

namespace EnumAccessors

namespace Words

/-- Whether `c` stands between words and belongs to none. -/
def isSeparator (c : Char) : Bool := c == '_' || c == '-' || c == ' '

/-- Whether a word ends between `p` and `c`. -/
def isRise (p c : Char) : Bool := Unicode.isLowercase p && Unicode.isUppercase c

/-- The word whose characters are given from the last to the first, unless it is empty. -/
def finish : List Char → List (List Char)
  | [] => []
  | word => [word.reverse]

/-- The words of a text in the middle of a word, whose characters so far are given from the last
to the first. -/
def splitFrom (word : List Char) : List Char → List (List Char)
  | [] => finish word
  | c :: rest =>
    if isSeparator c then finish word ++ splitFrom [] rest
    else
      match word with
      | [] => splitFrom [c] rest
      | p :: _ =>
        if isRise p c then finish word ++ splitFrom [c] rest else splitFrom (c :: word) rest

/-- The words of a text. -/
def split (cs : List Char) : List (List Char) := splitFrom [] cs

/-! ### What is lost and what is kept -/

@[simp] theorem flatten_finish (word : List Char) : (finish word).flatten = word.reverse := by
  cases word <;> simp [finish]

theorem ne_nil_of_mem_finish {word w : List Char} (h : w ∈ finish word) : w ≠ [] := by
  cases word <;> simp_all [finish]

theorem flatten_splitFrom (word cs : List Char) :
    (splitFrom word cs).flatten = word.reverse ++ cs.filter fun c => !isSeparator c := by
  fun_induction splitFrom word cs <;> simp_all

theorem ne_nil_of_mem_splitFrom {word cs w : List Char} (h : w ∈ splitFrom word cs) :
    w ≠ [] := by
  fun_induction splitFrom word cs with
  | case1 word => exact ne_nil_of_mem_finish h
  | case2 word c rest hc ih =>
    rcases List.mem_append.mp h with h | h
    · exact ne_nil_of_mem_finish h
    · exact ih h
  | case3 c rest hc ih => exact ih h
  | case4 c rest hc p word hr ih =>
    rcases List.mem_append.mp h with h | h
    · exact ne_nil_of_mem_finish h
    · exact ih h
  | case5 c rest hc p word hr ih => exact ih h

/-- The words of a text hold all of it but the separators. -/
theorem flatten_split (cs : List Char) :
    (split cs).flatten = cs.filter fun c => !isSeparator c :=
  flatten_splitFrom [] cs

/-- No word is empty. -/
theorem ne_nil_of_mem_split {cs w : List Char} (h : w ∈ split cs) : w ≠ [] :=
  ne_nil_of_mem_splitFrom h

end Words

end EnumAccessors

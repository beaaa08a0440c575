import EnumAccessors.Identifier
import EnumAccessors.Naming.Words
import Mathlib.Data.List.Basic
import Mathlib.Tactic.MkIffOfInductiveProp

/-!
# The characters of ASCII

What the tables say on the first 128 code points is what is usual: letter case and its mappings are
those of ASCII, and the mappings change nothing of a character but its letter case
(`Unicode.HasAsciiCase`).  This is one evaluation of the tables (`Unicode.hasAsciiCase`).

So the case of a text in ASCII is mapped one character at a time
(`Unicode.lowercase_of_all_isAscii`, `Unicode.uppercase_of_all_isAscii`).
-/

namespace EnumAccessors

namespace Unicode

/-- Whether `c` is one of the first 128 characters. -/
def isAscii (c : Char) : Bool := c.toNat < 128

/-! ### Letter case -/

/-- The letter case of a character is as in ASCII. -/
@[mk_iff]
structure HasAsciiCase (c : Char) : Prop where
  lower : isLowercase c = c.isLower
  upper : isUppercase c = c.isUpper
  lowered : toLowercase c = [c.toLower]
  raised : toUppercase c = [c.toUpper]
  isAscii_toLower : isAscii c.toLower = true
  isAscii_toUpper : isAscii c.toUpper = true
  toLower_toLower : c.toLower.toLower = c.toLower
  toLower_toUpper : c.toUpper.toLower = c.toLower
  toUpper_toLower : c.toLower.toUpper = c.toUpper
  isUppercase_toLower : isUppercase c.toLower = false
  isLowercase_toUpper : isLowercase c.toUpper = false
  isSeparator_toLower : Words.isSeparator c.toLower = Words.isSeparator c
  isSeparator_toUpper : Words.isSeparator c.toUpper = Words.isSeparator c
  isStart_toLower : Identifier.isStart c.toLower = Identifier.isStart c
  isPart_toLower : Identifier.isPart c.toLower = Identifier.isPart c
  toLower_eq_self_iff : c.toLower = c ↔ c.isUpper = false
  toUpper_eq_self : c.isUpper = true → c.toUpper = c
  /-- At the beginning of an identifier only the low line has no letter case. -/
  toUpper_eq_self_iff : Identifier.isStart c = true → c ≠ '_' → (c.toUpper = c ↔ c.isUpper = true)
  /-- Letter case does not rise behind a capital or a digit. -/
  lower_eq_false : c.isUpper = true ∨ c.isDigit = true → c.isLower = false

instance (c : Char) : Decidable (HasAsciiCase c) := decidable_of_iff' _ (hasAsciiCase_iff c)

/-- What holds of the first 128 code points holds of the characters in ASCII. -/
theorem of_isAscii {p : Char → Prop} (h : ∀ n < 128, p (Char.ofNat n)) {c : Char}
    (hc : isAscii c = true) : p c := by
  have hp := h c.toNat (by simpa [isAscii] using hc)
  rwa [Char.ofNat_toNat] at hp

theorem hasAsciiCase {c : Char} (h : isAscii c = true) : HasAsciiCase c :=
  of_isAscii (by decide +kernel) h

theorem ne_sigma_of_isAscii {c : Char} (h : isAscii c = true) : c ≠ 'Σ' := by
  rintro rfl
  exact absurd h (by decide)

/-! ### Texts -/

theorem lowercaseAfter_of_all_isAscii {cs : List Char} (h : ∀ c ∈ cs, isAscii c = true)
    (before : List Char) : lowercaseAfter before cs = cs.map Char.toLower := by
  induction cs generalizing before with
  | nil => rfl
  | cons c rest ih =>
    simp only [List.mem_cons, forall_eq_or_imp] at h
    rw [lowercaseAfter, if_neg (ne_sigma_of_isAscii h.1), (hasAsciiCase h.1).lowered, ih h.2]
    rfl

theorem lowercase_cons {c : Char} {rest : List Char} (h : ∀ x ∈ c :: rest, isAscii x = true) :
    lowercase (c :: rest) = c.toLower :: lowercase rest := by
  rw [lowercase, lowercase, lowercaseAfter_of_all_isAscii h,
    lowercaseAfter_of_all_isAscii (List.forall_mem_of_forall_mem_cons h), List.map_cons]

section Texts

variable {w : List Char} (hw : ∀ c ∈ w, isAscii c = true)

include hw

/-- The lower case of a text in ASCII. -/
theorem lowercase_of_all_isAscii : lowercase w = w.map Char.toLower :=
  lowercaseAfter_of_all_isAscii hw []

/-- The upper case of a text in ASCII. -/
theorem uppercase_of_all_isAscii : uppercase w = w.map Char.toUpper := by
  induction w with
  | nil => rfl
  | cons c rest ih =>
    simp only [List.mem_cons, forall_eq_or_imp] at hw
    have hrest : rest.flatMap toUppercase = rest.map Char.toUpper := ih hw.2
    simp [uppercase, (hasAsciiCase hw.1).raised, hrest]

theorem isAscii_of_mem_lowercase : ∀ c ∈ lowercase w, isAscii c = true := by
  rw [lowercase_of_all_isAscii hw, List.forall_mem_map]
  exact fun c hc => (hasAsciiCase (hw c hc)).isAscii_toLower

theorem isAscii_of_mem_uppercase : ∀ c ∈ uppercase w, isAscii c = true := by
  rw [uppercase_of_all_isAscii hw, List.forall_mem_map]
  exact fun c hc => (hasAsciiCase (hw c hc)).isAscii_toUpper

theorem isUppercase_of_mem_lowercase : ∀ c ∈ lowercase w, isUppercase c = false := by
  rw [lowercase_of_all_isAscii hw, List.forall_mem_map]
  exact fun c hc => (hasAsciiCase (hw c hc)).isUppercase_toLower

theorem isLowercase_of_mem_uppercase : ∀ c ∈ uppercase w, isLowercase c = false := by
  rw [uppercase_of_all_isAscii hw, List.forall_mem_map]
  exact fun c hc => (hasAsciiCase (hw c hc)).isLowercase_toUpper

theorem lowercase_lowercase : lowercase (lowercase w) = lowercase w := by
  rw [lowercase_of_all_isAscii (isAscii_of_mem_lowercase hw), lowercase_of_all_isAscii hw,
    List.map_map]
  exact List.map_congr_left fun c hc => (hasAsciiCase (hw c hc)).toLower_toLower

theorem lowercase_uppercase : lowercase (uppercase w) = lowercase w := by
  rw [lowercase_of_all_isAscii (isAscii_of_mem_uppercase hw), uppercase_of_all_isAscii hw,
    lowercase_of_all_isAscii hw, List.map_map]
  exact List.map_congr_left fun c hc => (hasAsciiCase (hw c hc)).toLower_toUpper

theorem uppercase_lowercase : uppercase (lowercase w) = uppercase w := by
  rw [uppercase_of_all_isAscii (isAscii_of_mem_lowercase hw), uppercase_of_all_isAscii hw,
    lowercase_of_all_isAscii hw, List.map_map]
  exact List.map_congr_left fun c hc => (hasAsciiCase (hw c hc)).toUpper_toLower

end Texts

end Unicode

end EnumAccessors

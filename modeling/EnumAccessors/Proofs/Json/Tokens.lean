import EnumAccessors.Json.Token
import EnumAccessors.Json.Value

/-!
# The tokens of written values

A written value is scanned into the same tokens in both of its forms, on one line and over several
lines (`Json.scans_compactChars`, `Json.scans_prettyChars`).  What is told here of one text at a
time is that it *scans* (`Json.Scans`): its tokens are taken off it in front of whatever follows,
and the steps that are left are enough for the rest.

* `Json.scanPieces_writeText` and `Json.chars?_pieceOf`: every escape that is written stands for
  the character it was written for, so texts come back whatever is in them.
* `Json.value_lexemeOf`: an integer that fits in 64 bits comes back from its digits.  Only a
  character that could go on the number must not follow (`Json.EndsNumber`).
* `Json.IsReadable`: the values that can be read back; numbers have to fit, and the nesting is
  bounded.
-/

namespace EnumAccessors

namespace Json

mutual

/-- The tokens that a value is written with. -/
def tokens : Json → List Token
  | null => [.null]
  | bool b => [.bool b]
  | int n => [.number (.int n)]
  | text s => [.text s]
  | array items => .openArray :: tokensOfItems items ++ [.closeArray]
  | object fields => .openObject :: tokensOfFields fields ++ [.closeObject]

/-- The tokens that the items of an array are written with. -/
def tokensOfItems : List Json → List Token
  | [] => []
  | [item] => tokens item
  | item :: rest => tokens item ++ .comma :: tokensOfItems rest

/-- The tokens that the fields of an object are written with. -/
def tokensOfFields : List (String × Json) → List Token
  | [] => []
  | [(name, value)] => .text name :: .colon :: tokens value
  | (name, value) :: rest => .text name :: .colon :: tokens value ++ .comma :: tokensOfFields rest

end

/-- A value can be read where `room` more levels can: its integers fit in 64 bits, with or without
a sign, and its arrays and objects are nested no deeper than that. -/
inductive IsReadable : Nat → Json → Prop where
  | null {room : Nat} : IsReadable room .null
  | bool {room : Nat} (b : Bool) : IsReadable room (.bool b)
  | int {room : Nat} {n : Int} (hmin : -Int.pow 2 63 ≤ n) (hmax : n < Int.pow 2 64) :
    IsReadable room (.int n)
  | text {room : Nat} (s : String) : IsReadable room (.text s)
  | array {room : Nat} {items : List Json} (h : ∀ item ∈ items, IsReadable room item) :
    IsReadable (room + 1) (.array items)
  | object {room : Nat} {fields : List (String × Json)} (h : ∀ f ∈ fields, IsReadable room f.2) :
    IsReadable (room + 1) (.object fields)

/-! ### Texts -/

/-- The piece that a written character is read as: the controls without a letter of their own are
written by their codes. -/
def pieceOf (c : Char) : Piece :=
  if c.toNat < 0x20 ∧ c ∉ ['\x08', '\x0c', '\n', '\r', '\t'] then .code c.toNat else .char c

theorem scanPieces_letter {e d : Char} (h : letterEscape e = some d) (rest : List Char) :
    scanPieces ('\\' :: e :: rest) = (.char d :: (scanPieces rest).1, (scanPieces rest).2) := by
  have he : e ≠ 'u' := by
    rintro rfl
    simp [letterEscape] at h
  rw [scanPieces.eq_def]
  simp [he, h]

theorem scanPieces_code {a b c d : Char} {n : Nat} (h : hexCode a b c d = some n)
    (rest : List Char) :
    scanPieces ('\\' :: 'u' :: a :: b :: c :: d :: rest) =
      (.code n :: (scanPieces rest).1, (scanPieces rest).2) := by
  rw [scanPieces.eq_def]
  simp [h]

theorem scanPieces_plain {c : Char} (hquote : c ≠ '"') (hslash : c ≠ '\\')
    (hcontrol : 0x20 ≤ c.toNat) (rest : List Char) :
    scanPieces (c :: rest) = (.char c :: (scanPieces rest).1, (scanPieces rest).2) := by
  rw [scanPieces.eq_def]
  simp [hquote, hslash, Nat.not_lt.2 hcontrol]

/-- A character with an escape of its own is written with a letter that stands for it. -/
theorem escapeChar_letter {c : Char} (h : c ∈ ['"', '\\', '\x08', '\x0c', '\n', '\r', '\t']) :
    pieceOf c = .char c ∧ ∃ e, escapeChar c = ['\\', e] ∧ letterEscape e = some c := by
  simp only [List.mem_cons, List.not_mem_nil, or_false] at h
  rcases h with rfl | rfl | rfl | rfl | rfl | rfl | rfl <;> exact ⟨by decide, _, rfl, by decide⟩

/-- The digits that a control is written with make up its code. -/
theorem controlEscape_ofNat : ∀ n < 0x20,
    controlEscape (Char.ofNat n) =
        ['\\', 'u', '0', '0', Nat.digitChar (n / 16), Nat.digitChar (n % 16)] ∧
      hexCode '0' '0' (Nat.digitChar (n / 16)) (Nat.digitChar (n % 16)) = some n := by
  decide

theorem scanPieces_escapeChar (c : Char) (rest : List Char) :
    scanPieces (escapeChar c ++ rest) =
      (pieceOf c :: (scanPieces rest).1, (scanPieces rest).2) := by
  -- a character is written with a letter, by its code, or as it is
  by_cases hletter : c ∈ ['"', '\\', '\x08', '\x0c', '\n', '\r', '\t']
  · obtain ⟨hpiece, e, hescape, hletter⟩ := escapeChar_letter hletter
    rw [hpiece, hescape]
    exact scanPieces_letter hletter rest
  · simp only [List.mem_cons, List.not_mem_nil, or_false, not_or] at hletter
    obtain ⟨hquote, hslash, hb, hf, hn, hr, ht⟩ := hletter
    simp only [escapeChar, hquote, hslash, hb, hf, hn, hr, ht, if_false]
    by_cases hcontrol : c.toNat < 0x20
    · obtain ⟨hescape, hcode⟩ := controlEscape_ofNat c.toNat hcontrol
      rw [Char.ofNat_toNat] at hescape
      have hpiece : pieceOf c = .code c.toNat := by simp [pieceOf, hcontrol, hb, hf, hn, hr, ht]
      rw [if_pos hcontrol, hescape, hpiece]
      exact scanPieces_code hcode rest
    · have hpiece : pieceOf c = .char c := by simp [pieceOf, hcontrol]
      rw [if_neg hcontrol, hpiece]
      exact scanPieces_plain hquote hslash (Nat.le_of_not_lt hcontrol) rest

theorem scanPieces_writeText (cs rest : List Char) :
    scanPieces (cs.flatMap escapeChar ++ '"' :: rest) = (cs.map pieceOf, .ok rest) := by
  induction cs with
  | nil =>
    rw [List.flatMap_nil, List.nil_append, scanPieces.eq_def]
    rfl
  | cons c cs ih =>
    rw [List.flatMap_cons, List.append_assoc, scanPieces_escapeChar, ih, List.map_cons]

theorem chars?_pieceOf (cs : List Char) : Piece.chars? (cs.map pieceOf) = some cs := by
  induction cs with
  | nil => rfl
  | cons c cs ih =>
    rw [List.map_cons, pieceOf]
    split
    · next h =>
      -- controls are no halves of a pair
      have hhigh : isHighHalf c.toNat = false := by
        simp only [isHighHalf, Bool.and_eq_false_iff, decide_eq_false_iff_not]
        omega
      have hlow : isLowHalf c.toNat = false := by
        simp only [isLowHalf, Bool.and_eq_false_iff, decide_eq_false_iff_not]
        omega
      rw [Piece.chars?.eq_def]
      simp [hhigh, hlow, ih]
    · rw [Piece.chars?.eq_def]
      simp [ih]

theorem nextToken_writeText (s : String) (rest : List Char) :
    nextToken '"' (s.toList.flatMap escapeChar ++ '"' :: rest) = (.text s, some rest) := by
  simp [nextToken, scanPieces_writeText, textToken, chars?_pieceOf]

/-! ### Integers -/

/-- What cannot go on a number. -/
def EndsNumber (rest : List Char) : Prop :=
  ∀ c ∈ rest.head?, isDigit c = false ∧ c ≠ '.' ∧ c ≠ 'e' ∧ c ≠ 'E'

theorem endsNumber_cons {c : Char} (h : isDigit c = false ∧ c ≠ '.' ∧ c ≠ 'e' ∧ c ≠ 'E')
    (rest : List Char) : EndsNumber (c :: rest) := by
  intro d hd
  obtain rfl : c = d := by simpa using hd
  exact h

theorem leadingDigits_append {ds rest : List Char} (hds : ∀ c ∈ ds, isDigit c = true)
    (hrest : EndsNumber rest) :
    leadingDigits (ds ++ rest) = ds.map fun c => c.toNat - '0'.toNat := by
  have htake : rest.takeWhile isDigit = [] := by
    cases rest with
    | nil => rfl
    | cons c rest => simp [(hrest c rfl).1]
  rw [leadingDigits, List.takeWhile_append_of_pos hds, htake, List.append_nil]

theorem afterDigits_append {ds rest : List Char} (hds : ∀ c ∈ ds, isDigit c = true)
    (hrest : EndsNumber rest) : afterDigits (ds ++ rest) = rest := by
  rw [afterDigits, List.dropWhile_append_of_pos hds]
  cases rest with
  | nil => rfl
  | cons c rest => simp [(hrest c rfl).1]

theorem isDigit_of_mem_toDigits {n : Nat} : ∀ c ∈ Nat.toDigits 10 n, isDigit c = true := by
  intro c hc
  have h := Nat.isDigit_of_mem_toDigits (by decide) (by decide) hc
  simp only [Char.isDigit, Bool.and_eq_true, decide_eq_true_eq] at h
  simp only [isDigit, Bool.and_eq_true, decide_eq_true_eq]
  exact h

theorem exists_toDigits_eq_cons (n : Nat) :
    ∃ d ds, Nat.toDigits 10 n = d :: ds ∧ isDigit d = true := by
  obtain ⟨d, ds, h⟩ := List.exists_cons_of_ne_nil (Nat.toDigits_ne_nil (n := n) (b := 10))
  exact ⟨d, ds, h, isDigit_of_mem_toDigits d (by rw [h]; exact List.mem_cons_self)⟩

/-- The digits of a natural number, by their values. -/
def digitsOf (n : Nat) : List Nat := (Nat.toDigits 10 n).map fun c => c.toNat - '0'.toNat

theorem digitsOf_ne_nil (n : Nat) : digitsOf n ≠ [] := by
  simp [digitsOf]

theorem digitsOf_of_lt {n : Nat} (h : n < 10) : digitsOf n = [n] := by
  rw [digitsOf, Nat.toDigits_of_lt_base h, List.map_singleton]
  exact congrArg (fun d => [d]) (Nat.toNat_digitChar_sub_48_of_lt_ten h)

theorem digitsOf_append {m k : Nat} (hm : 0 < m) (hk : k < 10) :
    digitsOf (10 * m + k) = digitsOf m ++ [k] := by
  rw [← digitsOf_of_lt hk, digitsOf, ← Nat.toDigits_append_toDigits (by decide) hm hk,
    List.map_append]
  rfl

/-- A zero in front is written for zero alone. -/
theorem head?_digitsOf_ne_zero {n : Nat} (h : 0 < n) : (digitsOf n).head? ≠ some 0 := by
  induction n using Nat.base_induction 10 (by decide) with
  | single m hm =>
    rw [digitsOf_of_lt hm, List.head?_cons, ne_eq, Option.some.injEq]
    omega
  | digit m k hk hm ih =>
    obtain ⟨d, ds, hds⟩ := List.exists_cons_of_ne_nil (digitsOf_ne_nil m)
    rw [digitsOf_append hm hk, hds]
    simpa [hds] using ih hm

theorem digitsValue_digitsOf (n : Nat) : Lexeme.digitsValue 0 (digitsOf n) = n := by
  rw [Lexeme.digitsValue, digitsOf, List.foldl_map, ← Nat.ofDigitChars_eq_foldl,
    Nat.ofDigitChars_ten_toDigits]

theorem scanExponent_of_endsNumber {rest : List Char} (h : EndsNumber rest) (l : Lexeme) :
    Lexeme.scanExponent l rest = .ok (l, rest) := by
  unfold Lexeme.scanExponent
  split
  · exact absurd rfl (h _ rfl).2.2.1
  · exact absurd rfl (h _ rfl).2.2.2
  · rfl

theorem scanFraction_of_endsNumber {rest : List Char} (h : EndsNumber rest) (l : Lexeme) :
    Lexeme.scanFraction l rest = .ok (l, rest) := by
  unfold Lexeme.scanFraction
  split
  · exact absurd rfl (h _ rfl).2.1
  · exact scanExponent_of_endsNumber h l

theorem scanWhole_toDigits (negative : Bool) (n : Nat) {rest : List Char} (h : EndsNumber rest) :
    Lexeme.scanWhole negative (Nat.toDigits 10 n ++ rest) =
      .ok ({ negative, whole := digitsOf n }, rest) := by
  have hleading : leadingDigits (Nat.toDigits 10 n ++ rest) = digitsOf n :=
    leadingDigits_append isDigit_of_mem_toDigits h
  have hafter : afterDigits (Nat.toDigits 10 n ++ rest) = rest :=
    afterDigits_append isDigit_of_mem_toDigits h
  unfold Lexeme.scanWhole
  rw [hleading, hafter]
  split
  · next hnil => exact absurd hnil (digitsOf_ne_nil n)
  · next d ds hzero =>
    rcases Nat.eq_zero_or_pos n with rfl | hn
    · rw [digitsOf_of_lt (by decide)] at hzero
      simp at hzero
    · exact absurd (by rw [hzero]; rfl) (head?_digitsOf_ne_zero hn)
  · rw [scanFraction_of_endsNumber h]

/-- The parts of an integer. -/
def lexemeOf (n : Int) : Lexeme := { negative := n < 0, whole := digitsOf n.natAbs }

/-- An integer is written with the digits of its size, behind a sign if it is negative. -/
theorem toList_toString_int (n : Int) :
    (toString n).toList =
      if n < 0 then '-' :: Nat.toDigits 10 n.natAbs else Nat.toDigits 10 n.natAbs := by
  rw [Int.toString_eq_repr, Int.repr_eq_if]
  by_cases h : n < 0
  · have habs : (-n).toNat = n.natAbs := by omega
    simp [h, Int.not_le.2 h, habs]
  · have habs : n.toNat = n.natAbs := by omega
    simp [h, Int.not_lt.1 h, habs]

theorem scan_toString_int (n : Int) {rest : List Char} (h : EndsNumber rest) :
    Lexeme.scan ((toString n).toList ++ rest) = .ok (lexemeOf n, rest) := by
  rw [toList_toString_int]
  by_cases hn : n < 0
  · rw [if_pos hn, List.cons_append, Lexeme.scan, scanWhole_toDigits true _ h, lexemeOf,
      decide_eq_true hn]
  · rw [if_neg hn]
    unfold Lexeme.scan
    split
    · next cs hcs =>
      -- a sign is no digit
      obtain ⟨d, ds, hds, hd⟩ := exists_toDigits_eq_cons n.natAbs
      rw [hds] at hcs
      obtain ⟨rfl, -⟩ := List.cons.inj hcs
      exact absurd hd (by decide)
    · rw [scanWhole_toDigits false _ h, lexemeOf, decide_eq_false hn]

theorem value_lexemeOf {n : Int} (hmin : -Int.pow 2 63 ≤ n) (hmax : n < Int.pow 2 64) :
    (lexemeOf n).value = some (.int n) := by
  have hlow : Int.pow 2 63 = 9223372036854775808 := by decide
  have hhigh : Int.pow 2 64 = 18446744073709551616 := by decide
  have hlowNat : Nat.pow 2 63 = 9223372036854775808 := by decide
  have hbound : Lexeme.wordBound = 18446744073709551616 := by decide
  unfold Lexeme.value
  simp only [lexemeOf, digitsValue_digitsOf, List.isEmpty_nil, Option.isNone_none, Bool.and_self,
    if_true]
  by_cases hn : n < 0
  · have hpos : 0 < n.natAbs := by omega
    have hle : n.natAbs ≤ Nat.pow 2 63 := by omega
    simp only [hn, decide_true, Bool.not_true, Bool.false_and, Bool.false_eq_true, if_false, hpos,
      hle, Bool.and_self, if_true, Option.some.injEq, Number.int.injEq]
    omega
  · have hlt : n.natAbs < Lexeme.wordBound := by omega
    simp only [hn, decide_false, Bool.not_false, hlt, decide_true, Bool.and_self, if_true,
      Option.some.injEq, Number.int.injEq]
    omega

/-- The characters that start something else than a number. -/
def otherStarts : List Char :=
  ['[', ']', '\x7b', '\x7d', ',', ':', '"', 'n', 't', 'f', ' ', '\n', '\t', '\r']

theorem not_mem_otherStarts {c : Char} (h : c = '-' ∨ isDigit c = true) : c ∉ otherStarts := by
  have hall : otherStarts.all (fun x => !(x == '-' || isDigit x)) = true := by decide
  intro hc
  have hother := List.all_eq_true.1 hall c hc
  rw [Bool.not_eq_true', Bool.or_eq_false_iff, beq_eq_false_iff_ne] at hother
  rcases h with h | h
  · exact hother.1 h
  · rw [hother.2] at h
    cases h

theorem nextToken_eq_numberToken {c : Char} (h : c = '-' ∨ isDigit c = true) (rest : List Char) :
    nextToken c rest = numberToken c (c :: rest) := by
  have hc := not_mem_otherStarts h
  simp only [otherStarts, List.mem_cons, List.not_mem_nil, or_false, not_or] at hc
  have hstart : (c = '-' || isDigit c) = true := by simpa using h
  simp [nextToken, hc, hstart]

theorem isBlank_eq_false {c : Char} (h : c ∉ otherStarts) : isBlank c = false := by
  simp only [otherStarts, List.mem_cons, List.not_mem_nil, or_false, not_or] at h
  simp [isBlank, h]

/-- An integer starts with a sign or a digit. -/
theorem exists_toString_int (n : Int) :
    ∃ c cs, (toString n).toList = c :: cs ∧ (c = '-' ∨ isDigit c = true) := by
  obtain ⟨d, ds, hds, hd⟩ := exists_toDigits_eq_cons n.natAbs
  rw [toList_toString_int]
  split
  · exact ⟨'-', _, rfl, .inl rfl⟩
  · exact ⟨d, ds, hds, .inr hd⟩

theorem nextToken_int {n : Int} (hmin : -Int.pow 2 63 ≤ n) (hmax : n < Int.pow 2 64) :
    ∃ c cs, (toString n).toList = c :: cs ∧ isBlank c = false ∧
      ∀ rest, EndsNumber rest → nextToken c (cs ++ rest) = (.number (.int n), some rest) := by
  obtain ⟨c, cs, hcs, hc⟩ := exists_toString_int n
  refine ⟨c, cs, hcs, isBlank_eq_false (not_mem_otherStarts hc), fun rest h => ?_⟩
  rw [nextToken_eq_numberToken hc, ← List.cons_append, ← hcs, numberToken, scan_toString_int n h]
  simp only [value_lexemeOf hmin hmax]

/-! ### Texts that scan -/

/-- A text starts with tokens: they are scanned off it in front of anything that cannot go on a
number, and enough steps are left for the rest. -/
def Scans (cs : List Char) (tokens : List Token) : Prop :=
  ∀ rest, EndsNumber rest → ∀ fuel, (cs ++ rest).length ≤ fuel →
    ∃ left, rest.length ≤ left ∧ scanTokens fuel (cs ++ rest) = tokens ++ scanTokens left rest

/-- A character that is a token by itself. -/
structure IsMark (c : Char) (t : Token) : Prop where
  next : ∀ rest, nextToken c rest = (t, some rest)
  blank : isBlank c = false
  ends : isDigit c = false ∧ c ≠ '.' ∧ c ≠ 'e' ∧ c ≠ 'E'

theorem isMark_comma : IsMark ',' .comma := ⟨fun _ => rfl, rfl, by decide⟩

theorem isMark_colon : IsMark ':' .colon := ⟨fun _ => rfl, rfl, by decide⟩

theorem isMark_openArray : IsMark '[' .openArray := ⟨fun _ => rfl, rfl, by decide⟩

theorem isMark_closeArray : IsMark ']' .closeArray := ⟨fun _ => rfl, rfl, by decide⟩

theorem isMark_openObject : IsMark '\x7b' .openObject := ⟨fun _ => rfl, rfl, by decide⟩

theorem isMark_closeObject : IsMark '\x7d' .closeObject := ⟨fun _ => rfl, rfl, by decide⟩

theorem exists_fuel {c : Char} {cs rest : List Char} {fuel : Nat}
    (h : (c :: cs ++ rest).length ≤ fuel) : ∃ k, fuel = k + 1 ∧ (cs ++ rest).length ≤ k := by
  rw [List.cons_append, List.length_cons] at h
  obtain ⟨k, rfl⟩ : ∃ k, fuel = k + 1 := Nat.exists_eq_add_of_le' (by omega)
  exact ⟨k, rfl, Nat.le_of_succ_le_succ h⟩

namespace Scans

variable {c : Char} {cs cs' : List Char} {t : Token} {ts ts' : List Token}

theorem scan_eq (h : Scans cs ts) : Token.scan cs = ts := by
  obtain ⟨left, -, hscan⟩ := h [] (by simp [EndsNumber]) cs.length (by simp)
  rw [List.append_nil] at hscan
  rw [Token.scan, hscan]
  cases left <;> simp [scanTokens]

theorem nil : Scans [] [] :=
  fun rest _ fuel hfuel => ⟨fuel, by simpa using hfuel, rfl⟩

theorem token (hc : isBlank c = false)
    (h : ∀ rest, EndsNumber rest → nextToken c (cs ++ rest) = (t, some rest)) :
    Scans (c :: cs) [t] := by
  intro rest hrest fuel hfuel
  obtain ⟨k, rfl, hk⟩ := exists_fuel hfuel
  refine ⟨k, by rw [List.length_append] at hk; omega, ?_⟩
  rw [List.cons_append, scanTokens, hc, h rest hrest]
  rfl

theorem blank (hc : isBlank c = true) (h : Scans cs ts) : Scans (c :: cs) ts := by
  intro rest hrest fuel hfuel
  obtain ⟨k, rfl, hk⟩ := exists_fuel hfuel
  obtain ⟨left, hleft, hscan⟩ := h rest hrest k hk
  refine ⟨left, hleft, ?_⟩
  rw [List.cons_append, scanTokens, hc, if_pos rfl, hscan]

theorem append (h : Scans cs ts) (h' : Scans cs' ts')
    (hends : ∀ rest, EndsNumber rest → EndsNumber (cs' ++ rest)) :
    Scans (cs ++ cs') (ts ++ ts') := by
  intro rest hrest fuel hfuel
  rw [List.append_assoc] at hfuel ⊢
  obtain ⟨left, hleft, hscan⟩ := h (cs' ++ rest) (hends rest hrest) fuel hfuel
  obtain ⟨left', hleft', hscan'⟩ := h' rest hrest left hleft
  exact ⟨left', hleft', by rw [hscan, hscan', List.append_assoc]⟩

theorem mark (h : IsMark c t) (hcs : Scans cs ts) : Scans (c :: cs) (t :: ts) := by
  intro rest hrest fuel hfuel
  obtain ⟨k, rfl, hk⟩ := exists_fuel hfuel
  obtain ⟨left, hleft, hscan⟩ := hcs rest hrest k hk
  refine ⟨left, hleft, ?_⟩
  rw [List.cons_append, scanTokens, h.blank, h.next]
  simp [hscan]

theorem append_mark (hcs : Scans cs ts) (h : IsMark c t) (hcs' : Scans cs' ts') :
    Scans (cs ++ c :: cs') (ts ++ t :: ts') :=
  hcs.append (hcs'.mark h) fun rest _ => endsNumber_cons h.ends (cs' ++ rest)

theorem onNewLine (level : Nat) (h : Scans cs ts) : Scans (newLine level ++ cs) ts := by
  rw [newLine, List.cons_append]
  refine .blank rfl ?_
  induction 2 * level with
  | zero => exact h
  | succ k ih => exact .blank rfl ih

theorem append_onNewLine (h : Scans cs ts) (level : Nat) (h' : Scans cs' ts') :
    Scans (cs ++ (newLine level ++ cs')) (ts ++ ts') :=
  h.append (h'.onNewLine level) fun _ _ => endsNumber_cons (by decide) _

end Scans

/-! ### Single values -/

theorem scans_null : Scans ['n', 'u', 'l', 'l'] [.null] := .token rfl fun _ _ => rfl

theorem scans_writeBool (b : Bool) : Scans (writeBool b) [.bool b] := by
  cases b with
  | false => exact .token rfl fun _ _ => rfl
  | true => exact .token rfl fun _ _ => rfl

theorem scans_writeText (s : String) : Scans (writeText s) [.text s] := by
  rw [writeText, List.cons_append]
  refine .token rfl fun rest _ => ?_
  rw [List.append_assoc]
  exact nextToken_writeText s rest

theorem scans_int {n : Int} (hmin : -Int.pow 2 63 ≤ n) (hmax : n < Int.pow 2 64) :
    Scans (toString n).toList [.number (.int n)] := by
  obtain ⟨c, cs, hcs, hc, hnext⟩ := nextToken_int hmin hmax
  rw [hcs]
  exact .token hc hnext

/-! ### On one line -/

theorem scans_compactItems {items : List Json}
    (h : ∀ item ∈ items, Scans item.compactChars item.tokens) :
    Scans (compactItems items) (tokensOfItems items) := by
  induction items with
  | nil => exact .nil
  | cons item rest ih =>
    obtain ⟨hitem, hrest⟩ := List.forall_mem_cons.1 h
    cases rest with
    | nil => exact hitem
    | cons next rest => exact hitem.append_mark isMark_comma (ih hrest)

theorem scans_compactFields {fields : List (String × Json)}
    (h : ∀ f ∈ fields, Scans f.2.compactChars f.2.tokens) :
    Scans (compactFields fields) (tokensOfFields fields) := by
  induction fields with
  | nil => exact .nil
  | cons f rest ih =>
    obtain ⟨name, value⟩ := f
    obtain ⟨hvalue, hrest⟩ := List.forall_mem_cons.1 h
    have hname := scans_writeText name
    cases rest with
    | nil => exact hname.append_mark isMark_colon hvalue
    | cons next rest =>
      have h := hname.append_mark isMark_colon (hvalue.append_mark isMark_comma (ih hrest))
      simpa [compactFields, tokensOfFields] using h

/-- A value on one line is scanned into its tokens. -/
theorem scans_compactChars {room : Nat} {j : Json} (h : IsReadable room j) :
    Scans j.compactChars j.tokens := by
  induction h with
  | null => exact scans_null
  | bool b => exact scans_writeBool b
  | int hmin hmax => exact scans_int hmin hmax
  | text s => exact scans_writeText s
  | array _ ih =>
    exact .mark isMark_openArray ((scans_compactItems ih).append_mark isMark_closeArray .nil)
  | object _ ih =>
    exact .mark isMark_openObject ((scans_compactFields ih).append_mark isMark_closeObject .nil)

/-! ### Over several lines -/

theorem scans_prettyItems {items : List Json} (level : Nat)
    (h : ∀ item ∈ items, Scans (item.prettyChars level) item.tokens) :
    Scans (prettyItems level items) (tokensOfItems items) := by
  induction items with
  | nil => exact .nil
  | cons item rest ih =>
    obtain ⟨hitem, hrest⟩ := List.forall_mem_cons.1 h
    cases rest with
    | nil => exact hitem
    | cons next rest =>
      have h := hitem.append_mark isMark_comma ((ih hrest).onNewLine level)
      simpa [prettyItems, tokensOfItems] using h

theorem scans_prettyFields {fields : List (String × Json)} (level : Nat)
    (h : ∀ f ∈ fields, Scans (f.2.prettyChars level) f.2.tokens) :
    Scans (prettyFields level fields) (tokensOfFields fields) := by
  induction fields with
  | nil => exact .nil
  | cons f rest ih =>
    obtain ⟨name, value⟩ := f
    obtain ⟨hvalue, hrest⟩ := List.forall_mem_cons.1 h
    have hname := scans_writeText name
    cases rest with
    | nil => exact hname.append_mark isMark_colon (hvalue.blank (c := ' ') rfl)
    | cons next rest =>
      have hmore := hvalue.append_mark isMark_comma ((ih hrest).onNewLine level)
      have h := hname.append_mark isMark_colon (hmore.blank (c := ' ') rfl)
      simpa [prettyFields, tokensOfFields] using h

/-- A value over several lines is scanned into the same tokens, whatever level it stands at. -/
theorem scans_prettyChars {room : Nat} {j : Json} (h : IsReadable room j) (level : Nat) :
    Scans (j.prettyChars level) j.tokens := by
  induction h generalizing level with
  | null => exact scans_null
  | bool b => exact scans_writeBool b
  | int hmin hmax => exact scans_int hmin hmax
  | text s => exact scans_writeText s
  | @array _ items _ ih =>
    have hclose : Scans [']'] [.closeArray] := .mark isMark_closeArray .nil
    cases items with
    | nil => exact .mark isMark_openArray hclose
    | cons item rest =>
      have hitems := scans_prettyItems (level + 1) fun j hj => ih j hj (level + 1)
      have h := ((hitems.append_onNewLine level hclose).onNewLine (level + 1)).mark isMark_openArray
      simpa [prettyChars, tokens] using h
  | @object _ fields _ ih =>
    have hclose : Scans ['\x7d'] [.closeObject] := .mark isMark_closeObject .nil
    cases fields with
    | nil => exact .mark isMark_openObject hclose
    | cons f rest =>
      have hfields := scans_prettyFields (level + 1) fun f hf => ih f hf (level + 1)
      have h :=
        ((hfields.append_onNewLine level hclose).onNewLine (level + 1)).mark isMark_openObject
      simpa [prettyChars, tokens] using h

end Json

end EnumAccessors

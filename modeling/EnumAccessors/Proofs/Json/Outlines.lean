import EnumAccessors.Json.Outline
import EnumAccessors.Proofs.Json.Tokens

/-!
# The outlines of written values

A value that can be read at all (`Json.IsReadable`) is read off its tokens without a fault
(`Json.IsReadable.isRead`), and so off its text (`Json.ofText_compact`, `Json.ofText_pretty`).  A
value that has something written behind it is told of, since items and fields are read that way.
-/

namespace EnumAccessors

namespace Json

open Outline (ofTokens itemsOfTokens fieldsOfTokens)

/-! ### Outlines -/

mutual

/-- The outline of a value. -/
def outline : Json → Outline
  | null => .null
  | bool b => .bool b
  | int n => .number (.int n)
  | text s => .text s
  | array items => .array (outlineOfItems items) .closed
  | object fields => .object (outlineOfFields fields) .closed

/-- The outlines of the items of an array. -/
def outlineOfItems : List Json → List Outline
  | [] => []
  | item :: rest => outline item :: outlineOfItems rest

/-- The outlines of the fields of an object. -/
def outlineOfFields : List (String × Json) → List (Outline × Outline)
  | [] => []
  | (name, value) :: rest => (.text name, outline value) :: outlineOfFields rest

end

@[simp] theorem outlineOfItems_eq_map (items : List Json) :
    outlineOfItems items = items.map outline := by
  induction items with
  | nil => rfl
  | cons item rest ih => rw [outlineOfItems, ih, List.map_cons]

@[simp] theorem outlineOfFields_eq_map (fields : List (String × Json)) :
    outlineOfFields fields = fields.map fun f => (.text f.1, f.2.outline) := by
  induction fields with
  | nil => rfl
  | cons f rest ih => rw [outlineOfFields, ih, List.map_cons]

/-- A value is read off the tokens that start with its own. -/
def IsRead (room : Nat) (j : Json) : Prop :=
  ∀ rest fuel, 2 * j.tokens.length ≤ fuel + 1 →
    ofTokens fuel room (j.tokens ++ rest) = (j.outline, rest)

/-- The first token of a value closes nothing. -/
theorem exists_tokens_eq_cons (j : Json) :
    ∃ t ts, j.tokens = t :: ts ∧ t ≠ .closeArray ∧ t ≠ .closeObject := by
  cases j <;> simp [tokens]

theorem exists_tokensOfItems_eq_cons (item : Json) (rest : List Json) :
    ∃ t ts, tokensOfItems (item :: rest) = t :: ts ∧ t ≠ .closeArray := by
  obtain ⟨t, ts, h, ht, -⟩ := exists_tokens_eq_cons item
  cases rest with
  | nil => exact ⟨t, ts, by rw [tokensOfItems, h], ht⟩
  | cons next rest =>
    exact ⟨t, ts ++ .comma :: tokensOfItems (next :: rest), by simp [tokensOfItems, h], ht⟩

theorem itemsOfTokens_tokensOfItems {room : Nat} {items : List Json} (hne : items ≠ [])
    (h : ∀ item ∈ items, IsRead room item) (rest : List Token) (fuel : Nat)
    (hfuel : 2 * (tokensOfItems items).length ≤ fuel) :
    itemsOfTokens fuel room (tokensOfItems items ++ .closeArray :: rest) =
      (items.map outline, .closed, rest) := by
  induction items generalizing fuel with
  | nil => contradiction
  | cons item items ih =>
    obtain ⟨hitem, hrest⟩ := List.forall_mem_cons.1 h
    obtain ⟨t, ts, ht, -, -⟩ := exists_tokens_eq_cons item
    have hpos : 0 < item.tokens.length := by simp [ht]
    -- one step goes to the item and leaves the others for it and what follows
    cases items with
    | nil =>
      simp only [tokensOfItems] at hfuel ⊢
      obtain ⟨fuel, rfl⟩ : ∃ k, fuel = k + 1 := Nat.exists_eq_add_of_le' (by omega)
      rw [itemsOfTokens, hitem _ _ (by omega)]
      rfl
    | cons next items =>
      simp only [tokensOfItems, List.length_append, List.length_cons] at hfuel
      obtain ⟨fuel, rfl⟩ : ∃ k, fuel = k + 1 := Nat.exists_eq_add_of_le' (by omega)
      have hnext := ih (List.cons_ne_nil _ _) hrest fuel (by omega)
      rw [tokensOfItems, List.append_assoc, itemsOfTokens, hitem _ _ (by omega)]
      simp only [List.cons_append, hnext, List.map_cons]
      simp

theorem fieldsOfTokens_tokensOfFields {room : Nat} {fields : List (String × Json)}
    (hne : fields ≠ []) (h : ∀ f ∈ fields, IsRead room f.2) (rest : List Token) (fuel : Nat)
    (hfuel : 2 * (tokensOfFields fields).length ≤ fuel) :
    fieldsOfTokens fuel room (tokensOfFields fields ++ .closeObject :: rest) =
      (fields.map fun f => (.text f.1, f.2.outline), .closed, rest) := by
  induction fields generalizing fuel with
  | nil => contradiction
  | cons f fields ih =>
    obtain ⟨name, value⟩ := f
    obtain ⟨hvalue, hrest⟩ := List.forall_mem_cons.1 h
    -- a field has two tokens more than its value, which pay for the step to it
    cases fields with
    | nil =>
      simp only [tokensOfFields, List.length_cons] at hfuel
      obtain ⟨fuel, rfl⟩ : ∃ k, fuel = k + 1 := Nat.exists_eq_add_of_le' (by omega)
      have hv := hvalue (.closeObject :: rest) fuel (by simp only; omega)
      simp [tokensOfFields, fieldsOfTokens, Outline.isPassable, Outline.ofKeyToken, hv]
    | cons next fields =>
      simp only [tokensOfFields, List.length_append, List.length_cons] at hfuel
      obtain ⟨fuel, rfl⟩ : ∃ k, fuel = k + 1 := Nat.exists_eq_add_of_le' (by omega)
      have hnext := ih (List.cons_ne_nil _ _) hrest fuel (by omega)
      have hv := hvalue (.comma :: (tokensOfFields (next :: fields) ++ .closeObject :: rest)) fuel
        (by simp only; omega)
      simp [tokensOfFields, fieldsOfTokens, Outline.isPassable, Outline.ofKeyToken, hv, hnext]

/-- An array that is not empty is read as its items are. -/
theorem ofTokens_openArray {fuel room : Nat} {t : Token} {ts rest : List Token}
    {items : List Outline} {closing : Closing} (ht : t ≠ .closeArray)
    (h : itemsOfTokens fuel room (t :: ts) = (items, closing, rest)) :
    ofTokens (fuel + 1) (room + 1) (.openArray :: t :: ts) = (.array items closing, rest) := by
  simp [ofTokens, ht, h]

/-- An object that is not empty is read as its fields are. -/
theorem ofTokens_openObject {fuel room : Nat} {t : Token} {ts rest : List Token}
    {fields : List (Outline × Outline)} {closing : Closing} (ht : t ≠ .closeObject)
    (h : fieldsOfTokens fuel room (t :: ts) = (fields, closing, rest)) :
    ofTokens (fuel + 1) (room + 1) (.openObject :: t :: ts) = (.object fields closing, rest) := by
  simp [ofTokens, ht, h]

theorem exists_tokensOfFields_eq_cons (f : String × Json) (rest : List (String × Json)) :
    ∃ ts, tokensOfFields (f :: rest) = .text f.1 :: ts := by
  cases rest with
  | nil => exact ⟨_, rfl⟩
  | cons next rest => exact ⟨_, rfl⟩

theorem IsRead.of_step {room : Nat} {j : Json}
    (h : ∀ rest fuel, 2 * j.tokens.length ≤ fuel + 2 →
      ofTokens (fuel + 1) room (j.tokens ++ rest) = (j.outline, rest)) : IsRead room j := by
  intro rest fuel hfuel
  -- a value has a token, so there is a step
  obtain ⟨t, ts, ht, -⟩ := exists_tokens_eq_cons j
  have hlength : j.tokens.length = ts.length + 1 := by rw [ht, List.length_cons]
  obtain ⟨fuel, rfl⟩ : ∃ k, fuel = k + 1 := Nat.exists_eq_add_of_le' (by omega)
  exact h rest fuel hfuel

theorem IsReadable.isRead {room : Nat} {j : Json} (h : IsReadable room j) : IsRead room j := by
  induction h with
  | null => exact .of_step fun _ _ _ => rfl
  | bool b => exact .of_step fun _ _ _ => rfl
  | int hmin hmax => exact .of_step fun _ _ _ => rfl
  | text s => exact .of_step fun _ _ _ => rfl
  | @array room items _ ih =>
    refine .of_step fun rest fuel hfuel => ?_
    cases items with
    | nil => rfl
    | cons item items =>
      simp only [tokens, List.length_append, List.length_cons, List.length_nil] at hfuel
      have hitems := itemsOfTokens_tokensOfItems (List.cons_ne_nil _ _) ih rest fuel (by omega)
      obtain ⟨t, ts, hts, ht⟩ := exists_tokensOfItems_eq_cons item items
      rw [hts, List.cons_append] at hitems
      simpa [tokens, hts, outline] using ofTokens_openArray ht hitems
  | @object room fields _ ih =>
    refine .of_step fun rest fuel hfuel => ?_
    cases fields with
    | nil => rfl
    | cons f fields =>
      simp only [tokens, List.length_append, List.length_cons, List.length_nil] at hfuel
      have hfields := fieldsOfTokens_tokensOfFields (List.cons_ne_nil _ _) ih rest fuel (by omega)
      obtain ⟨ts, hts⟩ := exists_tokensOfFields_eq_cons f fields
      rw [hts, List.cons_append] at hfields
      simpa [tokens, hts, outline] using ofTokens_openObject (by simp) hfields

theorem ofText_of_scans {cs : List Char} {j : Json} (hscan : Scans cs j.tokens)
    (h : IsReadable Outline.maxDepth j) : Outline.ofText (String.ofList cs) = (j.outline, []) := by
  have hread := h.isRead [] (2 * j.tokens.length + 1) (by omega)
  rw [List.append_nil] at hread
  simp only [Outline.ofText, String.toList_ofList, hscan.scan_eq, hread]

theorem ofText_compact {j : Json} (h : IsReadable Outline.maxDepth j) :
    Outline.ofText j.compact = (j.outline, []) :=
  ofText_of_scans (scans_compactChars h) h

theorem ofText_pretty {j : Json} (h : IsReadable Outline.maxDepth j) :
    Outline.ofText j.pretty = (j.outline, []) :=
  ofText_of_scans (scans_prettyChars h 0) h

/-- The end of the line behind a text does not matter. -/
theorem ofText_pretty_line {j : Json} (h : IsReadable Outline.maxDepth j) :
    Outline.ofText (j.pretty ++ "\n") = (j.outline, []) := by
  have hscan : Scans (prettyChars 0 j ++ ['\n']) (j.tokens ++ []) :=
    (scans_prettyChars h 0).append (.blank rfl .nil) fun _ _ => endsNumber_cons (by decide) _
  have htext : j.pretty ++ "\n" = String.ofList (prettyChars 0 j ++ ['\n']) := by
    rw [String.ofList_append]
    rfl
  rw [List.append_nil] at hscan
  rw [htext]
  exact ofText_of_scans hscan h

end Json

end EnumAccessors

import EnumAccessors.Proofs.Json.Outlines

/-!
# Values of JSON texts

A text that is well formed (`Json.IsWellFormed`) has a value (`Json.ofText?`), unless there are
numbers in it that are no integers.  The text of a value that can be read is well formed and has
that value, so values with the same text are the same (`Json.IsReadable.ofText?_pretty`).
-/

namespace EnumAccessors

namespace Json

/-! ### Values -/

namespace Outline

mutual

/-- The value of an outline without faults; none if a number in it is no integer. -/
def value? : Outline → Option Json
  | null => some .null
  | bool b => some (.bool b)
  | number (.int n) => some (.int n)
  | text s => some (.text s)
  | array items .closed => (valuesOfItems? items).map .array
  | object fields .closed => (valuesOfFields? fields).map .object
  | _ => none

/-- The values of the items of an array. -/
def valuesOfItems? : List Outline → Option (List Json)
  | [] => some []
  | item :: rest => (value? item).bind fun j => (valuesOfItems? rest).map (j :: ·)

/-- The values of the fields of an object. -/
def valuesOfFields? : List (Outline × Outline) → Option (List (String × Json))
  | [] => some []
  | (.text name, value) :: rest =>
    (value? value).bind fun j => (valuesOfFields? rest).map ((name, j) :: ·)
  | _ => none

end

end Outline

open Outline (valuesOfItems? valuesOfFields? faultOfItems? faultOfFields?)

/-- A text holds one value and nothing after it, and nothing is wrong with it. -/
def IsWellFormed (text : String) : Prop :=
  (Outline.ofText text).1.fault? true = none ∧ (Outline.ofText text).2 = []

/-- The value that a text holds. -/
def ofText? (text : String) : Option Json :=
  match Outline.ofText text with
  | (o, []) => o.value?
  | _ => none

/-- The value of a field of an object, the first of the name. -/
def field? (name : String) : Json → Option Json
  | object fields => fields.lookup name
  | _ => none

/-- The names of the fields of an object, in their order. -/
def fieldNames : Json → List String
  | object fields => fields.map Prod.fst
  | _ => []

/-! ### Values of written texts -/

theorem valuesOfItems?_map_outline {items : List Json}
    (h : ∀ item ∈ items, item.outline.value? = some item) :
    valuesOfItems? (items.map outline) = some items := by
  induction items with
  | nil => rfl
  | cons item rest ih =>
    rw [List.forall_mem_cons] at h
    rw [List.map_cons, valuesOfItems?, h.1, ih h.2]
    rfl

theorem valuesOfFields?_map_outline {fields : List (String × Json)}
    (h : ∀ f ∈ fields, f.2.outline.value? = some f.2) :
    valuesOfFields? (fields.map fun f => (.text f.1, f.2.outline)) = some fields := by
  induction fields with
  | nil => rfl
  | cons f rest ih =>
    rw [List.forall_mem_cons] at h
    rw [List.map_cons, valuesOfFields?, h.1, ih h.2]
    rfl

theorem faultOfItems?_map_outline {items : List Json}
    (h : ∀ item ∈ items, item.outline.fault? true = none) :
    faultOfItems? true (items.map outline) = none := by
  induction items with
  | nil => rfl
  | cons item rest ih =>
    rw [List.forall_mem_cons] at h
    rw [List.map_cons, faultOfItems?, h.1, ih h.2]
    rfl

theorem faultOfFields?_map_outline {fields : List (String × Json)}
    (h : ∀ f ∈ fields, f.2.outline.fault? true = none) :
    faultOfFields? true (fields.map fun f => (.text f.1, f.2.outline)) = none := by
  induction fields with
  | nil => rfl
  | cons f rest ih =>
    rw [List.forall_mem_cons] at h
    rw [List.map_cons, faultOfFields?, h.1, ih h.2]
    rfl

namespace IsReadable

variable {room : Nat} {j : Json}

/-- The outline of a value has that value. -/
theorem value?_outline (h : IsReadable room j) : j.outline.value? = some j := by
  induction h with
  | null => rfl
  | bool b => rfl
  | int hmin hmax => rfl
  | text s => rfl
  | array _ ih =>
    rw [outline, outlineOfItems_eq_map, Outline.value?, valuesOfItems?_map_outline ih]
    rfl
  | object _ ih =>
    rw [outline, outlineOfFields_eq_map, Outline.value?, valuesOfFields?_map_outline ih]
    rfl

/-- Nothing is wrong with the outline of a value. -/
theorem fault?_outline (h : IsReadable room j) : j.outline.fault? true = none := by
  induction h with
  | null => rfl
  | bool b => rfl
  | int hmin hmax => rfl
  | text s => rfl
  | array _ ih =>
    rw [outline, outlineOfItems_eq_map, Outline.fault?, faultOfItems?_map_outline ih]
    rfl
  | object _ ih =>
    rw [outline, outlineOfFields_eq_map, Outline.fault?, faultOfFields?_map_outline ih]
    rfl

theorem isWellFormed_pretty (h : IsReadable Outline.maxDepth j) : IsWellFormed j.pretty := by
  rw [IsWellFormed, ofText_pretty h]
  exact ⟨h.fault?_outline, rfl⟩

/-- A value written over several lines is read as that value. -/
theorem ofText?_pretty (h : IsReadable Outline.maxDepth j) : ofText? j.pretty = some j := by
  rw [ofText?, ofText_pretty h]
  exact h.value?_outline

end IsReadable

end Json

end EnumAccessors

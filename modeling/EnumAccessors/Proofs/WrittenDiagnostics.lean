import EnumAccessors.Proofs.Json.Values
import EnumAccessors.Proofs.Listings
import Mathlib.Logic.Function.Basic

/-!
# Diagnostics written as JSON

The JSON text of a list of diagnostics is told from the side of somebody who reads it with any JSON
reader.

* `Diagnostic.IsWrittenAs` and `Location.IsWrittenAs`: the fields of the object that stands for a
  diagnostic or a place.
* `Diagnostic.IsWrittenAs.unique`: such an object tells the diagnostic.
* `Diagnostic.ofText?_listToJsonText`: the text is well formed, its value is an array with such an
  object for each diagnostic in their order, and different lists have different texts.
-/

namespace EnumAccessors

/-! ### Objects for places and diagnostics -/

/-- An object stands for a place. -/
structure Location.IsWrittenAs (l : Location) (j : Json) : Prop where
  names : j.fieldNames = ["file", "line", "column"]
  file : j.field? "file" = some (.text l.file)
  line : j.field? "line" = some (.int l.line.toNat)
  column : j.field? "column" = some (.int l.column.toNat)

/-- An object stands for a diagnostic. -/
structure Diagnostic.IsWrittenAs (d : Diagnostic) (j : Json) : Prop where
  names : j.fieldNames = ["id", "severity", "message", "location", "args"]
  id : j.field? "id" = some (.text d.kind.id)
  severity : j.field? "severity" = some (.text d.severity.name)
  message : j.field? "message" = some (.text d.message)
  /-- Without a place there is null … -/
  unplaced : d.location = none → j.field? "location" = some .null
  /-- … and with one an object for it. -/
  placed : ∀ l, d.location = some l →
    ∃ place, j.field? "location" = some place ∧ l.IsWrittenAs place
  args : j.field? "args" = some (.array (d.args.map .text))

theorem Location.isWrittenAs_toJson (l : Location) : l.IsWrittenAs l.toJson := ⟨rfl, rfl, rfl, rfl⟩

/-- An object for a place tells it. -/
theorem Location.IsWrittenAs.unique {l l' : Location} {j : Json} (h : l.IsWrittenAs j)
    (h' : l'.IsWrittenAs j) : l = l' := by
  obtain ⟨file, line, column⟩ := l
  obtain ⟨file', line', column'⟩ := l'
  have hfile := h.file.symm.trans h'.file
  have hline := h.line.symm.trans h'.line
  have hcolumn := h.column.symm.trans h'.column
  simp only [Option.some.injEq, Json.text.injEq, Json.int.injEq, Int.natCast_inj,
    UInt64.toNat_inj] at hfile hline hcolumn
  rw [hfile, hline, hcolumn]

/-- Null stands for no place. -/
theorem Location.not_isWrittenAs_null (l : Location) : ¬ l.IsWrittenAs .null :=
  fun h => absurd h.names (List.cons_ne_nil _ _).symm

namespace Diagnostic

theorem isWrittenAs_toJson (d : Diagnostic) : d.IsWrittenAs d.toJson where
  names := rfl
  id := rfl
  severity := rfl
  message := rfl
  unplaced h := by simp [toJson, Json.field?, List.lookup_cons, h]
  placed l h := ⟨l.toJson, by simp [toJson, Json.field?, List.lookup_cons, h], l.isWrittenAs_toJson⟩
  args := rfl

/-- Kinds of one id are the same. -/
theorem Kind.id_injective : Function.Injective id := fun k k' h =>
  Option.some.inj (by rw [← ofId?_id k, h, ofId?_id])

namespace IsWrittenAs

variable {d d' : Diagnostic} {j : Json}

theorem location_eq (h : d.IsWrittenAs j) (h' : d'.IsWrittenAs j) : d.location = d'.location := by
  cases hd : d.location with
  | none =>
    cases hd' : d'.location with
    | none => rfl
    | some l' =>
      obtain ⟨place, hplace, hl'⟩ := h'.placed l' hd'
      obtain rfl : .null = place := Option.some.inj ((h.unplaced hd).symm.trans hplace)
      exact absurd hl' l'.not_isWrittenAs_null
  | some l =>
    obtain ⟨place, hplace, hl⟩ := h.placed l hd
    cases hd' : d'.location with
    | none =>
      obtain rfl : .null = place := Option.some.inj ((h'.unplaced hd').symm.trans hplace)
      exact absurd hl l.not_isWrittenAs_null
    | some l' =>
      obtain ⟨place', hplace', hl'⟩ := h'.placed l' hd'
      obtain rfl : place = place' := Option.some.inj (hplace.symm.trans hplace')
      rw [hl.unique hl']

/-- An object for a diagnostic tells it. -/
theorem unique (h : d.IsWrittenAs j) (h' : d'.IsWrittenAs j) : d = d' := by
  have hid := Json.text.inj (Option.some.inj (h.id.symm.trans h'.id))
  have hargs := Json.array.inj (Option.some.inj (h.args.symm.trans h'.args))
  have hkind : d.kind = d'.kind := Kind.id_injective hid
  have hlocation := h.location_eq h'
  replace hargs : d.args = d'.args := (List.map_inj_right fun _ _ => Json.text.inj).1 hargs
  cases d
  cases d'
  simp_all only

end IsWrittenAs

/-! ### Texts -/

theorem isReadable_toJson (d : Diagnostic) (room : Nat) :
    Json.IsReadable (room + 2) d.toJson :=
  d.entry.isReadable_toJson room

theorem isReadable_array_toJson (ds : List Diagnostic) :
    Json.IsReadable Json.Outline.maxDepth (.array (ds.map toJson)) :=
  isReadable_list (fun d => d.isReadable_toJson 124) ds

/-- **The JSON text of diagnostics can be read back.**  For every list of diagnostics it is well
formed, and its value is an array of as many items, each an object that stands for the diagnostic
at its place.  So the text tells the diagnostics. -/
theorem ofText?_listToJsonText :
    (∀ ds : List Diagnostic, Json.IsWellFormed (listToJsonText ds) ∧
      ∃ items, Json.ofText? (listToJsonText ds) = some (.array items) ∧
        items.length = ds.length ∧
        ∀ (i : Nat) (d : Diagnostic), ds[i]? = some d →
          ∃ j, items[i]? = some j ∧ d.IsWrittenAs j) ∧
      Function.Injective listToJsonText := by
  have hread : ∀ ds : List Diagnostic,
      Json.ofText? (listToJsonText ds) = some (.array (ds.map toJson)) :=
    fun ds => (isReadable_array_toJson ds).ofText?_pretty
  constructor
  · intro ds
    refine ⟨(isReadable_array_toJson ds).isWellFormed_pretty, ds.map toJson, hread ds,
      List.length_map _, fun i d hd => ?_⟩
    exact ⟨d.toJson, by rw [List.getElem?_map, hd, Option.map_some], d.isWrittenAs_toJson⟩
  · intro ds ds' htext
    have hitems : ds.map toJson = ds'.map toJson :=
      Json.array.inj (Option.some.inj ((hread ds).symm.trans (htext ▸ hread ds')))
    -- one object cannot stand for two diagnostics
    refine (List.map_inj_right fun d d' h => ?_).1 hitems
    exact d.isWrittenAs_toJson.unique (h ▸ d'.isWrittenAs_toJson)

end Diagnostic

end EnumAccessors

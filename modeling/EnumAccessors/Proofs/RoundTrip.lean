import EnumAccessors.Accessor.Options
import EnumAccessors.Proofs.Json.Records

/-!
# Writing and reading back

Whatever a compilation holds, its JSON text describes it and nothing else.  Each kind of metadata
is read back by its decoder (`Argument.readsBack` up to `Compilation.readsBack`), and what is
written nests at most nine levels deep (`Compilation.isReadable_toJson`).  A configuration that is
written in full is read back as well (`Options.readsBack`).
-/

namespace EnumAccessors

open Json

/-! ### Reading back -/

theorem Argument.readsBack : decode.ReadsBack toJson := by
  intro a
  cases a with
  | bool b => rfl
  | int n =>
    have hrange : minInt ≤ n.toInt ∧ n.toInt ≤ maxInt := ⟨n.le_toInt, n.toInt_le⟩
    simp only [decode, failIfSome, toJson, outline, hrange, and_self, if_true, Int64.ofInt_toInt]
    rfl
  | text s => rfl
  | null => rfl

-- Field by field: `rfl` finds the field in the format, and a second one sees that the record read
-- so far has none yet of what may be left out.

theorem Location.readsBack : format.decode.ReadsBack toJson := by
  intro l
  have hfile := format.reads_nil.given "file" Decoder.readsBack_text l.file rfl
  have hline := hfile.given "line" Decoder.readsBack_count l.line rfl
  have hcolumn := hline.given "column" Decoder.readsBack_count l.column rfl
  exact format.decode_object (by decide) hcolumn (by simp [format, Field.needed])

theorem Location.outline_toJson_ne_null (l : Location) : l.toJson.outline ≠ .null := by
  simp [toJson, outline]

theorem Attribute.readsBack : format.decode.ReadsBack toJson := by
  intro a
  have hargs := format.reads_nil.given "args" Argument.readsBack.list a.args rfl
  have hlocation := hargs.optional "location" Location.readsBack Location.outline_toJson_ne_null
    a.location rfl rfl
  exact format.decode_object (by decide) hlocation (by simp [format, Field.optional])

theorem Attribute.outline_toJson_ne_null (a : Attribute) : a.toJson.outline ≠ .null := by
  simp [toJson, outline]

theorem Member.readsBack : format.decode.ReadsBack toJson := by
  intro m
  have hname := format.reads_nil.given "name" Decoder.readsBack_text m.name rfl
  have hlocation := hname.optional "location" Location.readsBack Location.outline_toJson_ne_null
    m.location rfl rfl
  have hexclude := hlocation.optional "exclude" Attribute.readsBack
    Attribute.outline_toJson_ne_null m.exclude rfl rfl
  have hdisplay := hexclude.optional "displayName" Attribute.readsBack
    Attribute.outline_toJson_ne_null m.displayName rfl rfl
  have hpre := hdisplay.optional "prefix" Attribute.readsBack
    Attribute.outline_toJson_ne_null m.accessorPrefix rfl rfl
  have hgroups := hpre.list "groups" Attribute.readsBack m.groups rfl rfl
  exact format.decode_object (by decide) hgroups (by simp [format, Field.optional, Field.needed])

theorem Accessibility.readsBack :
    (Decoder.oneOf Accessibility.names).ReadsBack fun a => .text a.name := by
  intro a
  change Decoder.oneOf.choose Accessibility.names a.name = .ok a
  rw [Decoder.oneOf.choose, Accessibility.lookup_names]

theorem EnumType.readsBack : format.decode.ReadsBack toJson := by
  intro e
  have hname := format.reads_nil.given "name" Decoder.readsBack_text e.name rfl
  have hscope := hname.given "namespace" Decoder.readsBack_text e.scope rfl
  have hfull := hscope.given "fullName" Decoder.readsBack_text e.fullName rfl
  have haccess := hfull.given "accessibility" Accessibility.readsBack e.accessibility rfl
  have hflags := haccess.given "isFlags" Decoder.readsBack_bool e.isFlags rfl
  have hexclude := hflags.optional "exclude" Attribute.readsBack
    Attribute.outline_toJson_ne_null e.exclude rfl rfl
  have hpre := hexclude.optional "prefix" Attribute.readsBack
    Attribute.outline_toJson_ne_null e.accessorPrefix rfl rfl
  have hnaming := hpre.optional "naming" Attribute.readsBack
    Attribute.outline_toJson_ne_null e.naming rfl rfl
  have hgroups := hnaming.list "groups" Attribute.readsBack e.groups rfl rfl
  have hmembers := hgroups.given "members" Member.readsBack.list e.members rfl
  exact format.decode_object (by decide) hmembers (by simp [format, Field.optional, Field.needed])

theorem EnumType.outline_toJson_ne_null (e : EnumType) : e.toJson.outline ≠ .null := by
  simp [toJson, outline]

/-- The symbol that a declaration may have is read back from null too. -/
theorem Declaration.readsBack_symbol : (Decoder.optional EnumType.format.decode).ReadsBack
    fun symbol => (symbol.map EnumType.toJson).getD .null := by
  intro symbol
  cases symbol with
  | none => rfl
  | some e => exact EnumType.readsBack.optional e.outline_toJson_ne_null

theorem Declaration.readsBack : format.decode.ReadsBack toJson := by
  intro d
  have hname := format.reads_nil.given "name" Decoder.readsBack_text d.name rfl
  have hlocation := hname.optional "location" Location.readsBack Location.outline_toJson_ne_null
    d.location rfl rfl
  have hsymbol := hlocation.given "symbol" readsBack_symbol d.symbol rfl
  exact format.decode_object (by decide) hsymbol (by simp [format, Field.optional, Field.needed])

theorem Compilation.readsBack : format.decode.ReadsBack toJson := by
  intro c
  have hnaming := format.reads_nil.optional "naming" Attribute.readsBack
    Attribute.outline_toJson_ne_null c.naming rfl rfl
  have henums := hnaming.given "enums" Declaration.readsBack.list c.enums rfl
  exact format.decode_object (by decide) henums (by simp [format, Field.optional])

/-- The guard that a configuration may have is read back from null too. -/
theorem Options.readsBack_guard : (Decoder.optional Decoder.text).ReadsBack
    fun guard => (guard.map .text).getD .null := by
  intro guard
  cases guard <;> rfl

theorem Options.readsBack : format.decode.ReadsBack toJson := by
  intro o
  have hmethods := format.reads_nil.given "methods" Decoder.readsBack_bool o.methods rfl
  have hproperties := hmethods.given "properties" Decoder.readsBack_bool o.properties rfl
  have hguard := hproperties.given "propertyGuard" readsBack_guard o.propertyGuard rfl
  have hreceiver := hguard.given "receiver" Decoder.readsBack_text o.receiver rfl
  exact format.decode_object (by decide) hreceiver (by simp [format, Field.optional])

/-! ### Room for what is written -/

theorem forall_mem_optionalField {α : Type} {name : String} {write : α → Json} {value : Option α}
    {p : String × Json → Prop} (h : ∀ a, p (name, write a)) :
    ∀ f ∈ optionalField name write value, p f := by
  cases value with
  | none => exact List.forall_mem_nil _
  | some a => simpa [optionalField] using h a

theorem isReadable_list {α : Type} {room : Nat} {write : α → Json}
    (h : ∀ a, IsReadable room (write a)) (values : List α) :
    IsReadable (room + 1) (.array (values.map write)) := by
  refine .array fun item hitem => ?_
  obtain ⟨a, -, rfl⟩ := List.mem_map.1 hitem
  exact h a

theorem forall_mem_listField {α : Type} {room : Nat} {name : String} {write : α → Json}
    (h : ∀ a, IsReadable room (write a)) (values : List α) :
    ∀ f ∈ listField name write values, IsReadable (room + 1) f.2 := by
  cases values with
  | nil => exact List.forall_mem_nil _
  | cons a rest => simpa [listField] using isReadable_list h (a :: rest)

theorem isReadable_count {room : Nat} (n : UInt64) : IsReadable room (.int n.toNat) := by
  have hmin : Int.pow 2 63 = 9223372036854775808 := by decide
  have hmax : Int.pow 2 64 = 18446744073709551616 := by decide
  have hlt := n.toNat_lt
  exact .int (by omega) (by omega)

theorem Location.isReadable_toJson (l : Location) (room : Nat) :
    IsReadable (room + 1) l.toJson := by
  refine .object ?_
  simp only [List.forall_mem_cons]
  exact ⟨.text _, isReadable_count _, isReadable_count _, List.forall_mem_nil _⟩

theorem Argument.isReadable_toJson (a : Argument) (room : Nat) : IsReadable room a.toJson := by
  cases a with
  | bool b => exact .bool b
  | int n =>
    have hmin : Int.pow 2 63 = 9223372036854775808 := by decide
    have hmax : Int.pow 2 64 = 18446744073709551616 := by decide
    have hle := n.le_toInt
    have hlt := n.toInt_lt
    exact .int (by omega) (by omega)
  | text s => exact .text s
  | null => exact .null

theorem Attribute.isReadable_toJson (a : Attribute) (room : Nat) :
    IsReadable (room + 2) a.toJson := by
  refine .object ?_
  simp only [List.forall_mem_cons]
  exact ⟨isReadable_list (fun a => a.isReadable_toJson room) a.args,
    forall_mem_optionalField fun l => l.isReadable_toJson room⟩

theorem Member.isReadable_toJson (m : Member) (room : Nat) : IsReadable (room + 4) m.toJson := by
  have hattribute : ∀ name (a : Option Attribute),
      ∀ f ∈ optionalField name Attribute.toJson a, IsReadable (room + 3) f.2 :=
    fun _ _ => forall_mem_optionalField fun a => a.isReadable_toJson (room + 1)
  refine .object ?_
  simp only [List.forall_mem_cons, List.forall_mem_append]
  refine ⟨⟨⟨⟨⟨.text _, ?_⟩, hattribute _ _⟩, hattribute _ _⟩, hattribute _ _⟩, ?_⟩
  · exact forall_mem_optionalField fun l => l.isReadable_toJson (room + 2)
  · exact forall_mem_listField (fun a => a.isReadable_toJson room) _

theorem EnumType.isReadable_toJson (e : EnumType) (room : Nat) :
    IsReadable (room + 6) e.toJson := by
  have hattribute : ∀ name (a : Option Attribute),
      ∀ f ∈ optionalField name Attribute.toJson a, IsReadable (room + 5) f.2 :=
    fun _ _ => forall_mem_optionalField fun a => a.isReadable_toJson (room + 3)
  refine .object ?_
  simp only [List.forall_mem_cons, List.forall_mem_append]
  refine ⟨⟨⟨⟨⟨⟨.text _, .text _, .text _, .text _, .bool _, ?_⟩, hattribute _ _⟩, hattribute _ _⟩,
    hattribute _ _⟩, ?_⟩, ?_, ?_⟩
  · exact List.forall_mem_nil _
  · exact forall_mem_listField (fun a => a.isReadable_toJson (room + 2)) _
  · exact isReadable_list (fun m => m.isReadable_toJson room) _
  · exact List.forall_mem_nil _

theorem Declaration.isReadable_toJson (d : Declaration) (room : Nat) :
    IsReadable (room + 7) d.toJson := by
  refine .object ?_
  simp only [List.forall_mem_cons, List.forall_mem_append]
  refine ⟨⟨.text _, ?_⟩, ?_, List.forall_mem_nil _⟩
  · exact forall_mem_optionalField fun l => l.isReadable_toJson (room + 5)
  · cases d.symbol with
    | none => exact .null
    | some e => exact e.isReadable_toJson room

/-- What a compilation is written with stays far above the depth that can be read. -/
theorem Compilation.isReadable_toJson (c : Compilation) : IsReadable Outline.maxDepth c.toJson := by
  refine .object ?_
  simp only [List.forall_mem_cons, List.forall_mem_append]
  refine ⟨?_, ?_, List.forall_mem_nil _⟩
  · exact forall_mem_optionalField fun a => a.isReadable_toJson 124
  · exact isReadable_list (fun d => d.isReadable_toJson 118) _

theorem Options.isReadable_toJson (o : Options) (room : Nat) : IsReadable (room + 1) o.toJson := by
  refine .object ?_
  simp only [List.forall_mem_cons]
  refine ⟨.bool _, .bool _, ?_, .text _, List.forall_mem_nil _⟩
  cases o.propertyGuard with
  | none => exact .null
  | some guard => exact .text guard

/-! ### Values and their texts -/

theorem decodeText_of_ofText {α : Type} {d : Decoder α} {write : α → Json} {text : String} {a : α}
    (hd : d.ReadsBack write) (h : Outline.ofText text = ((write a).outline, [])) :
    decodeText d text = .ok a := by
  simp only [decodeText, h, hd a, bind, Except.bind]
  rfl

/-- A configuration that is written in full is read back as it was. -/
theorem Options.ofJsonText_toJson (o : Options) :
    ofJsonText o.toJson.compact = .ok o ∧ ofJsonText o.toJson.pretty = .ok o :=
  have hreadable := o.isReadable_toJson 126
  ⟨decodeText_of_ofText readsBack (ofText_compact hreadable),
    decodeText_of_ofText readsBack (ofText_pretty hreadable)⟩

/-- A compilation written to JSON, on one line or over several, is read back as it was. -/
theorem Compilation.ofJsonText_toJsonText (c : Compilation) :
    ofJsonText c.toJsonText = .ok c ∧ ofJsonText c.toJson.pretty = .ok c :=
  ⟨decodeText_of_ofText readsBack (ofText_compact c.isReadable_toJson),
    decodeText_of_ofText readsBack (ofText_pretty c.isReadable_toJson)⟩

end EnumAccessors

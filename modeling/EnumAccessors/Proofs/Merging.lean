import EnumAccessors.Proofs.Refusals
import Mathlib.Data.List.Perm.Basic

/-!
# Options merged from defaults, a file and flags

A configuration is an object with some of the options, in any order and among fields that mean
nothing.  What is left out keeps its default, and the flags switch outputs off.

* `Json.Outline.fault?_skipping`: what can be read can be skipped.
* `Json.RecordFormat.readFields_filter`: fields that a record does not have are passed over.
* `Options.ofJsonText_of_gives`: the configuration that a text gives is the default one with the
  fields that are there (`Options.taken`).
* `Options.exists_fault?_iff`: which configurations make no sense.
* `FileTree.runs_with_merged`: what comes of the options in a run of `generate`
  (`FileTree.RunsWith`), with all flags and for all paths in the working directory
  (`FileTree.relativeParts`).
-/

namespace EnumAccessors

open Json (Outline RecordFormat Field)

/-! ### Values that are skipped -/

namespace Json.Outline

theorem keyFault?_skipping {o : Outline} (h : o.keyFault? true = none) :
    o.keyFault? false = none := by
  unfold keyFault? at h ⊢
  split at h <;> simp_all

mutual

/-- What can be read can be skipped. -/
theorem fault?_skipping : ∀ {o : Outline}, o.fault? true = none → o.fault? false = none
  | null, _ | bool _, _ | number _, _ | text _, _ => rfl
  | array items closing, h => by
    rw [fault?, Option.or_eq_none_iff] at h ⊢
    exact ⟨faultOfItems?_skipping h.1, h.2⟩
  | object fields closing, h => by
    rw [fault?, Option.or_eq_none_iff] at h ⊢
    exact ⟨faultOfFields?_skipping h.1, h.2⟩

theorem faultOfItems?_skipping : ∀ {items : List Outline},
    faultOfItems? true items = none → faultOfItems? false items = none
  | [], _ => rfl
  | item :: rest, h => by
    rw [faultOfItems?, Option.or_eq_none_iff] at h ⊢
    exact ⟨fault?_skipping h.1, faultOfItems?_skipping h.2⟩

theorem faultOfFields?_skipping : ∀ {fields : List (Outline × Outline)},
    faultOfFields? true fields = none → faultOfFields? false fields = none
  | [], _ => rfl
  | (key, value) :: rest, h => by
    rw [faultOfFields?, Option.or_eq_none_iff, Option.or_eq_none_iff] at h ⊢
    exact ⟨keyFault?_skipping h.1, fault?_skipping h.2.1, faultOfFields?_skipping h.2.2⟩

end

end Json.Outline

/-! ### Foreign fields -/

namespace Json.RecordFormat

variable {ρ : Type} {format : RecordFormat ρ}

/-- A record has a field of the name. -/
def knows (format : RecordFormat ρ) (name : String) : Bool :=
  (format.fields.map Field.name).contains name

/-- A field of an object that a record does not have, with a value that can be skipped. -/
def IsForeign (format : RecordFormat ρ) (f : Outline × Outline) : Prop :=
  ∃ name, f.1 = .text name ∧ format.knows name = false ∧ f.2.fault? false = none

/-- A record has the field of an object. -/
def isOwn (format : RecordFormat ρ) (f : Outline × Outline) : Bool :=
  match f.1 with
  | .text name => format.knows name
  | _ => true

/-- A field of another name is foreign if nothing is wrong with its value. -/
theorem isForeign_of_fault? {name : String} {value : Outline} (hname : format.knows name = false)
    (hvalue : value.fault? true = none) : format.IsForeign (.text name, value) :=
  ⟨name, rfl, hname, Outline.fault?_skipping hvalue⟩

theorem find?_eq_none_of_knows {name : String} (h : format.knows name = false) :
    (format.fields.find? fun f => f.name == name) = none := by
  rw [List.find?_eq_none]
  intro f hf heq
  have hmem : name ∈ format.fields.map Field.name :=
    List.mem_map.2 ⟨f, hf, by simpa using heq⟩
  simp [knows, hmem] at h

theorem isOwn_of_isForeign {f : Outline × Outline} (h : format.IsForeign f) :
    format.isOwn f = false := by
  obtain ⟨name, hname, hknows, -⟩ := h
  rw [isOwn, hname]
  exact hknows

/-- Fields that a record does not have are passed over. -/
theorem readFields_filter {fields : List (Outline × Outline)}
    (h : ∀ f ∈ fields, format.isOwn f = true ∨ format.IsForeign f) (seen : List String)
    (record : ρ) :
    format.readFields seen record fields =
      format.readFields seen record (fields.filter format.isOwn) := by
  induction fields generalizing seen record with
  | nil => rfl
  | cons f rest ih =>
    obtain ⟨hf, hrest⟩ := List.forall_mem_cons.1 h
    obtain ⟨key, value⟩ := f
    rcases hf with hown | hforeign
    · rw [List.filter_cons_of_pos hown]
      cases key <;> simp only [readFields, ih hrest]
    · rw [List.filter_cons_of_neg (by simp [isOwn_of_isForeign hforeign])]
      obtain ⟨name, hname, hknows, hskip⟩ := hforeign
      obtain rfl : key = .text name := hname
      rw [readFields, find?_eq_none_of_knows hknows]
      simp only
      rw [hskip, ← ih hrest]
      rfl

/-- An object gives what its own fields give, if none is required. -/
theorem decode_of_filter {fields : List (Outline × Outline)} {own : List (String × Json)} {r : ρ}
    (hfields : ∀ f ∈ fields, format.isOwn f = true ∨ format.IsForeign f)
    (hown : fields.filter format.isOwn = outlineOfFields own)
    (hnodup : (own.map Prod.fst).Nodup) (hread : own.foldlM format.readField format.blank = .ok r)
    (hrequired : ∀ f ∈ format.fields, f.required = false) :
    format.decode (.object fields .closed) = .ok r := by
  have hknown : ∀ name ∈ own.map Prod.fst, name ∈ format.fields.map Field.name := by
    intro name hname
    obtain ⟨f, hf, rfl⟩ := List.mem_map.1 hname
    have hmem : (.text f.1, f.2.outline) ∈ fields.filter format.isOwn := by
      rw [hown, outlineOfFields_eq_map]
      exact List.mem_map_of_mem hf
    simpa [isOwn, knows] using (List.mem_filter.1 hmem).2
  have hnone : ∀ seen : List String,
      (format.fields.find? fun f => f.required && !seen.contains f.name) = none := by
    intro seen
    rw [List.find?_eq_none]
    intro f hf
    simp [hrequired f hf]
  have hfiltered := format.readFields_outline hnodup (fun _ _ => List.not_mem_nil) hknown hread
  rw [← hown, ← readFields_filter hfields] at hfiltered
  simp only [decode, hfiltered, bind, Except.bind, Closing.fault?, failIfSome, hnone]
  rfl

end Json.RecordFormat

namespace Options

/-! ### Configurations in part -/

/-- The fields of a configuration. -/
def written (o : Options) : List (String × Json) :=
  [("methods", .bool o.methods), ("properties", .bool o.properties),
    ("propertyGuard", (o.propertyGuard.map .text).getD .null), ("receiver", .text o.receiver)]

/-- The default configuration with the fields of the given names taken from another one. -/
def taken (o : Options) (given : List String) : Options where
  methods := if "methods" ∈ given then o.methods else Options.methods {}
  properties := if "properties" ∈ given then o.properties else Options.properties {}
  propertyGuard := if "propertyGuard" ∈ given then o.propertyGuard else Options.propertyGuard {}
  receiver := if "receiver" ∈ given then o.receiver else Options.receiver {}

/-- The fields of an object are those of a configuration that have given names, in any order and
mixed with foreign ones. -/
def Gives (o : Options) (given : List String) (fields : List (Outline × Outline)) : Prop :=
  ∃ others, (∀ f ∈ others, format.IsForeign f) ∧
    fields.Perm
      (((o.written.filter fun f => f.1 ∈ given).map fun f => (.text f.1, f.2.outline)) ++ others)

variable {o : Options} {given : List String}

theorem taken_congr {others : List String}
    (h : ∀ f ∈ o.written, f.1 ∈ given ↔ f.1 ∈ others) : o.taken given = o.taken others := by
  simp only [written, List.forall_mem_cons] at h
  simp only [taken, h]

/-- A field that is read is taken. -/
theorem readField_taken {f : String × Json} (hf : f ∈ o.written) (given : List String) :
    format.readField (o.taken given) f = .ok (o.taken (f.1 :: given)) := by
  simp only [written, List.mem_cons, List.not_mem_nil, or_false] at hf
  rcases hf with rfl | rfl | rfl | rfl
  · refine congrArg Except.ok (?_ : { o.taken given with methods := o.methods } = _)
    simp [taken]
  · refine congrArg Except.ok (?_ : { o.taken given with properties := o.properties } = _)
    simp [taken]
  · have hread : format.readField (o.taken given)
        ("propertyGuard", (o.propertyGuard.map .text).getD .null) =
          .ok { o.taken given with propertyGuard := o.propertyGuard } := by
      cases o.propertyGuard <;> rfl
    rw [hread]
    simp [taken]
  · refine congrArg Except.ok (?_ : { o.taken given with receiver := o.receiver } = _)
    simp [taken]

theorem foldlM_readField_taken {fields : List (String × Json)}
    (h : ∀ f ∈ fields, f ∈ o.written) (given : List String) :
    fields.foldlM format.readField (o.taken given) =
      .ok (o.taken ((fields.map Prod.fst).reverse ++ given)) := by
  induction fields generalizing given with
  | nil => rfl
  | cons f rest ih =>
    rw [List.forall_mem_cons] at h
    rw [List.foldlM_cons, readField_taken h.1]
    exact (ih h.2 (f.1 :: given)).trans (by simp)

theorem isOwn_of_mem_written {f : String × Json} (hf : f ∈ o.written) :
    format.isOwn (.text f.1, f.2.outline) = true := by
  simp only [written, List.mem_cons, List.not_mem_nil, or_false] at hf
  rcases hf with rfl | rfl | rfl | rfl <;> rfl

/-- What is not foreign among the fields are the given ones, in the order they are in. -/
theorem Gives.exists_own {fields : List (Outline × Outline)} (h : o.Gives given fields) :
    (∀ f ∈ fields, format.isOwn f = true ∨ format.IsForeign f) ∧
      ∃ own, own.Perm (o.written.filter fun f => f.1 ∈ given) ∧
        fields.filter format.isOwn = Json.outlineOfFields own := by
  obtain ⟨others, hothers, hperm⟩ := h
  have hown : ∀ f ∈ (o.written.filter fun f => f.1 ∈ given).map
      fun f => ((.text f.1, f.2.outline) : Outline × Outline), format.isOwn f = true := by
    intro f hf
    obtain ⟨w, hw, rfl⟩ := List.mem_map.1 hf
    exact isOwn_of_mem_written (List.mem_filter.1 hw).1
  have hnone : others.filter format.isOwn = [] := by
    rw [List.filter_eq_nil_iff]
    intro f hf
    simp [RecordFormat.isOwn_of_isForeign (hothers f hf)]
  constructor
  · intro f hf
    rcases List.mem_append.1 (hperm.mem_iff.1 hf) with hf | hf
    · exact .inl (hown f hf)
    · exact .inr (hothers f hf)
  · have hfiltered := hperm.filter format.isOwn
    rw [List.filter_append, List.filter_eq_self.2 hown, hnone, List.append_nil] at hfiltered
    obtain ⟨own, heq, hown⟩ := (congrFun₂ (List.eq_map_comp_perm _) _ _).mpr hfiltered
    exact ⟨own, hown, by rw [heq, Json.outlineOfFields_eq_map]⟩

theorem nodup_written (o : Options) : (o.written.map Prod.fst).Nodup := by
  rw [written]
  simp only [List.map_cons, List.map_nil]
  decide

/-- Whatever the order of the fields, and whatever foreign ones are among them, the defaults are
replaced by what is given. -/
theorem decode_of_gives {fields : List (Outline × Outline)} (h : o.Gives given fields) :
    format.decode (.object fields .closed) = .ok (o.taken given) := by
  obtain ⟨hfields, own, hperm, hown⟩ := h.exists_own
  have hmem : ∀ f, f ∈ own ↔ f ∈ o.written ∧ f.1 ∈ given := fun f => by
    rw [hperm.mem_iff, List.mem_filter, decide_eq_true_iff]
  have hnodup : (own.map Prod.fst).Nodup :=
    (hperm.map Prod.fst).nodup_iff.2 (o.nodup_written.sublist (List.filter_sublist.map _))
  have hread := foldlM_readField_taken (fun f hf => ((hmem f).1 hf).1) []
  have htaken : o.taken ((own.map Prod.fst).reverse ++ []) = o.taken given := by
    refine taken_congr fun f hf => ?_
    simp only [List.append_nil, List.mem_reverse, List.mem_map]
    constructor
    · rintro ⟨g, hg, hname⟩
      exact hname ▸ ((hmem g).1 hg).2
    · exact fun hgiven => ⟨f, (hmem f).2 ⟨hf, hgiven⟩, rfl⟩
  rw [htaken] at hread
  exact RecordFormat.decode_of_filter hfields hown hnodup hread (by simp [format, Field.optional])

/-- A text with such an object gives that configuration. -/
theorem ofJsonText_of_gives {text : String} {fields : List (Outline × Outline)}
    (htext : Outline.ofText text = (.object fields .closed, [])) (h : o.Gives given fields) :
    ofJsonText text = .ok (o.taken given) := by
  simp only [ofJsonText, Json.decodeText, htext, decode_of_gives h, bind, Except.bind]
  rfl

/-- The fields of an object that are not foreign are the given ones. -/
theorem Gives.mem_own_iff {fields : List (Outline × Outline)} (h : o.Gives given fields)
    {f : Outline × Outline} : f ∈ fields ∧ format.isOwn f = true ↔
      ∃ w ∈ o.written, w.1 ∈ given ∧ f = (.text w.1, w.2.outline) := by
  obtain ⟨-, own, hperm, hown⟩ := h.exists_own
  rw [← List.mem_filter, hown, Json.outlineOfFields_eq_map, List.mem_map]
  constructor
  · rintro ⟨w, hw, rfl⟩
    obtain ⟨hwritten, hgiven⟩ := List.mem_filter.1 (hperm.mem_iff.1 hw)
    exact ⟨w, hwritten, of_decide_eq_true hgiven, rfl⟩
  · rintro ⟨w, hw, hgiven, rfl⟩
    exact ⟨w, hperm.mem_iff.2 (List.mem_filter.2 ⟨hw, decide_eq_true hgiven⟩), rfl⟩

/-- Null for a guard means that there is none. -/
theorem Gives.propertyGuard_of_null {fields : List (Outline × Outline)} (h : o.Gives given fields)
    (hnull : (Outline.text "propertyGuard", Outline.null) ∈ fields) :
    (o.taken given).propertyGuard = none := by
  obtain ⟨w, hw, hgiven, heq⟩ := h.mem_own_iff.1 ⟨hnull, rfl⟩
  simp only [written, List.mem_cons, List.not_mem_nil, or_false] at hw
  rcases hw with rfl | rfl | rfl | rfl
  · simp at heq
  · simp at heq
  · cases hguard : o.propertyGuard with
    | none => simpa [taken, hguard] using hgiven
    | some guard => simp [hguard, Json.outline] at heq
  · simp at heq

/-- Without one the guard is the default. -/
theorem Gives.propertyGuard_of_missing {fields : List (Outline × Outline)}
    (h : o.Gives given fields) (hmissing : ∀ f ∈ fields, f.1 ≠ .text "propertyGuard") :
    (o.taken given).propertyGuard = some "NET10_0_OR_GREATER" := by
  have hnot : "propertyGuard" ∉ given := by
    intro hgiven
    have hwritten : ("propertyGuard", (o.propertyGuard.map .text).getD .null) ∈ o.written := by
      simp [written]
    exact hmissing _ (h.mem_own_iff.2 ⟨_, hwritten, hgiven, rfl⟩).1 rfl
  exact if_neg hnot

/-! ### Faults -/

/-- What makes a configuration refused. -/
theorem exists_fault?_iff {o : Options} : (∃ fault, o.fault? = some fault) ↔
    (o.methods = false ∧ o.properties = false) ∨ Identifier.isValid o.receiver = false ∨
      ∃ guard, o.propertyGuard = some guard ∧ Identifier.isValid guard = false := by
  unfold fault?
  split_ifs with henabled hreceiver
  · simp_all
  · simp_all
  · cases o.propertyGuard with
    | none => simp_all
    | some guard => cases Identifier.isValid guard <;> simp_all

end Options

/-! ### Runs -/

namespace FileTree

/-- A run of `generate` works under a configuration. -/
structure RunsWith (t : FileTree) (args : List String) (verbose : Bool) (output : Option String)
    (c : Compilation) (o : Options) : Prop where
  /-- It is refused exactly if nothing would be generated, or a name is no identifier … -/
  refused : (∃ fault log, t.Refuses args log (.pass (.invalidConfig fault))) ↔
    (o.methods = false ∧ o.properties = false) ∨ Identifier.isValid o.receiver = false ∨
      ∃ guard, o.propertyGuard = some guard ∧ Identifier.isValid guard = false
  /-- … and otherwise it reports the diagnostics of the pass under that configuration and puts its
  output where it belongs. -/
  accepted : (¬ ∃ fault log, t.Refuses args log (.pass (.invalidConfig fault))) →
    ∃ out, c.run o (fun _ => false) = .ok out ∧
      t.runCommandLine args =
        Outcome.performAll
          { tree := t, stderr := Outcome.printed (Command.generateLines verbose c o out) }
          (.ok ()) (Command.unitEffects output out.units)

variable {t : FileTree} {args : List String} {verbose : Bool} {input : String}
  {output config : Option String} {noProperties noMethods : Bool}

/-- A run is refused for its options exactly if there is a fault in what is left of them. -/
theorem exists_refuses_iff {c : Compilation} {base : Options}
    (hargs : Invocation.ofArguments args =
      some ⟨verbose, .generate input output config noProperties noMethods⟩)
    (hload : Command.load t.read Compilation.ofJsonText input = .ok c)
    (hoptions : Command.loadOptions t.read config = .ok base) :
    (∃ fault log, t.Refuses args log (.pass (.invalidConfig fault))) ↔
      ∃ fault, (base.disable noMethods noProperties).fault? = some fault := by
  constructor
  · rintro ⟨fault, log, hrefuses⟩
    obtain ⟨i, hi, hresult⟩ := hrefuses.result
    obtain rfl := Option.some.inj (hargs.symm.trans hi)
    -- without a fault the plan would come to a good end
    by_contra hnone
    have ho := Option.eq_none_iff_forall_ne_some.2 (not_exists.1 hnone)
    have hplan := Command.planGenerate_eq verbose output hload hoptions
      (Compilation.run_eq_ok ho fun _ _ => rfl)
    simp only [Invocation.plan, hplan] at hresult
    cases hresult
  · rintro ⟨fault, hfault⟩
    exact ⟨fault, _,
      refuses_of_plan hargs (Command.planGenerate_of_fault? _ _ hload hoptions hfault)⟩

theorem runsWith {c : Compilation} {base : Options}
    (hargs : Invocation.ofArguments args =
      some ⟨verbose, .generate input output config noProperties noMethods⟩)
    (hload : Command.load t.read Compilation.ofJsonText input = .ok c)
    (hoptions : Command.loadOptions t.read config = .ok base) :
    t.RunsWith args verbose output c (base.disable noMethods noProperties) := by
  have hrefused := exists_refuses_iff hargs hload hoptions
  refine ⟨hrefused.trans Options.exists_fault?_iff, fun hnot => ?_⟩
  rw [hrefused, not_exists] at hnot
  have hrun : c.run (base.disable noMethods noProperties) (fun _ => false) =
      .ok (c.output (base.disable noMethods noProperties)) :=
    Compilation.run_eq_ok (Option.eq_none_iff_forall_ne_some.2 hnot) fun _ _ => rfl
  exact ⟨_, hrun, runCommandLine_eq_of_run hargs hload hoptions hrun⟩

/-- **Options come from defaults, a file and flags.**  A text that gives some of the fields of a
configuration, in any order and among foreign ones, is read as the default configuration with those
fields; null for the guard is none, and a guard that is missing is the default one.  So a
configuration that is written in full is read back.  The flags of `generate` switch outputs of it
off, and the run works under what is left. -/
theorem runs_with_merged {o : Options} {given : List String} {text : String}
    {fields : List (Outline × Outline)}
    (htext : Outline.ofText text = (.object fields .closed, [])) (hfields : o.Gives given fields) :
    Options.ofJsonText text = .ok (o.taken given) ∧
      ((.text "propertyGuard", .null) ∈ fields → (o.taken given).propertyGuard = none) ∧
      ((∀ f ∈ fields, f.1 ≠ .text "propertyGuard") →
        (o.taken given).propertyGuard = some "NET10_0_OR_GREATER") ∧
      (Options.ofJsonText o.toJson.compact = .ok o ∧ Options.ofJsonText o.toJson.pretty = .ok o) ∧
      (∀ read : Command.Reader, Command.loadOptions read none = .ok {} ∧
        ∀ path, read path = some text →
          Command.loadOptions read (some path) = .ok (o.taken given)) ∧
      ∀ (t : FileTree) args verbose input output config noProperties noMethods c base,
        Invocation.ofArguments args =
          some ⟨verbose, .generate input output config noProperties noMethods⟩ →
        Command.load t.read Compilation.ofJsonText input = .ok c →
        Command.loadOptions t.read config = .ok base →
        ∃ used, Options.IsSwitchedOff noMethods noProperties base used ∧
          t.RunsWith args verbose output c used := by
  have hdecoded := Options.ofJsonText_of_gives htext hfields
  refine ⟨hdecoded, hfields.propertyGuard_of_null, hfields.propertyGuard_of_missing,
    o.ofJsonText_toJson, fun read => ⟨rfl, fun path hread => ?_⟩, ?_⟩
  · rw [Command.loadOptions, Command.load_eq hread, hdecoded]
    rfl
  · intro t args verbose input output config noProperties noMethods c base hargs hload hoptions
    exact ⟨_, Options.isSwitchedOff_iff.2 rfl, runsWith hargs hload hoptions⟩

/-- A guard that is null, and a field that means nothing. -/
theorem runs_with_merged_null :
    let c : Compilation :=
      { enums :=
          [.resolved
            { name := "E", fullName := "E", accessibility := .public
              members := [{ name := "A" }] }] }
    let j : Json :=
      .object [("x", .array [.int 1]), ("receiver", .text "self"), ("propertyGuard", .null)]
    let o : Options := { propertyGuard := none, receiver := "self" }
    let t : FileTree :=
      { files := [(["c.json"], some c.toJsonText), (["o.json"], some j.compact)] }
    let args := ["generate", "-i", "c.json", "--config", "o.json", "--no-properties"]
    Options.ofJsonText j.compact = .ok o ∧
      t.RunsWith args false none c { o with properties := false } ∧
      ∃ fault log, t.Refuses (args ++ ["--no-methods"]) log (.pass (.invalidConfig fault)) := by
  intro c j o t args
  have hreadable : Json.IsReadable Outline.maxDepth j := by
    refine .object ?_
    simp only [List.forall_mem_cons]
    refine ⟨.array ?_, .text _, .null, List.forall_mem_nil _⟩
    simp only [List.forall_mem_cons]
    exact ⟨.int (by decide) (by decide), List.forall_mem_nil _⟩
  have hgives : o.Gives ["receiver", "propertyGuard"] (Json.outlineOfFields
      [("x", .array [.int 1]), ("receiver", .text "self"), ("propertyGuard", .null)]) :=
    ⟨[(.text "x", (Json.array [.int 1]).outline)],
      List.forall_mem_singleton.2 (RecordFormat.isForeign_of_fault? (by decide) rfl),
      (List.reverse_perm _).symm⟩
  obtain ⟨hdecoded, -, -, -, hload, hruns⟩ :=
    runs_with_merged (Json.ofText_compact hreadable) hgives
  have hc : Command.load t.read Compilation.ofJsonText "c.json" = .ok c := load_toJsonText rfl
  have hargs : Invocation.ofArguments args =
        some ⟨false, .generate "c.json" none (some "o.json") true false⟩ ∧
      Invocation.ofArguments (args ++ ["--no-methods"]) =
        some ⟨false, .generate "c.json" none (some "o.json") true true⟩ := by decide +kernel
  have hbase : Command.loadOptions t.read (some "o.json") = .ok o := (hload t.read).2 _ rfl
  refine ⟨hdecoded, ?_, ?_⟩
  · obtain ⟨used, hused, hrun⟩ := hruns t _ _ _ _ _ _ _ _ _ hargs.1 hc hbase
    obtain rfl : used = { o with properties := false } := Options.isSwitchedOff_iff.1 hused
    exact hrun
  · obtain ⟨used, hused, hrun⟩ := hruns t _ _ _ _ _ _ _ _ _ hargs.2 hc hbase
    obtain rfl := Options.isSwitchedOff_iff.1 hused
    exact hrun.refused.2 (.inl ⟨rfl, rfl⟩)

end FileTree

end EnumAccessors

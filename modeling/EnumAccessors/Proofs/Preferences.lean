import EnumAccessors.Proofs.Cancellation
import EnumAccessors.Proofs.References
import EnumAccessors.Proofs.Sources
import Mathlib.Data.List.Basic

/-!
# Where naming preferences are written

A naming preference stands on a type or on the project, and it may be missing or malformed on
either.  Only one check of the analysis reads it (`Check.typeNaming`), so what it is and where it
comes from shows in the names of the accessors and in the diagnostics of that check, at one place
among the others (`EnumType.diagnostics_analyze_withNaming`), and nowhere else.

* `Compilation.run_spreadNaming`: a project that gives a preference is as good as one that gives
  none and has it written on each type without one of its own.  If names in one of its casings are
  no identifiers, this is said once in the one case, and once for each such type in the other.
* `EnumType.neutral_of_naming_unusable`: a preference that is absent or malformed is as good as
  one that keeps names in Pascal case, but for one diagnostic.
-/

namespace EnumAccessors

/-! ### The preference that an attribute gives -/

namespace Attribute

variable {a : Attribute}

/-- An attribute gives a preference by its first two arguments. -/
theorem isSome_naming?_iff : a.naming?.isSome = true ↔ 2 ≤ a.args.length := by
  unfold naming? arg?
  rcases a.args with - | ⟨source, - | ⟨target, rest⟩⟩ <;> simp

theorem exists_naming? (h : 2 ≤ a.args.length) : ∃ n, a.naming? = some n :=
  Option.isSome_iff_exists.1 (isSome_naming?_iff.2 h)

theorem naming?_eq_none (h : a.args.length < 2) : a.naming? = none := by
  rw [← Option.not_isSome_iff_eq_none, isSome_naming?_iff]
  omega

/-- What is wrong with the casings that an attribute gives: names in them are no identifiers. -/
def casingFaults (a : Attribute) : List Diagnostic :=
  match a.naming? with
  | none => []
  | some n =>
    (if n.source.isIdentifierSafe then [] else [⟨.sourceCasing, a.location, [n.source.name]⟩]) ++
    (if n.target.isIdentifierSafe then [] else [⟨.targetCasing, a.location, [n.target.name]⟩])

theorem casingFaults_of_isSupported (h : ∀ n ∈ a.naming?, n.isSupported = true) :
    a.casingFaults = [] := by
  unfold casingFaults
  split
  · rfl
  · next n hn =>
    have hsafe := h n hn
    rw [Naming.isSupported, Bool.and_eq_true] at hsafe
    simp [hsafe.1, hsafe.2]

end Attribute

namespace Check

variable {a : Attribute} {n : Naming}

theorem diagnostics_casing (c : Casing) (kind : Diagnostic.Kind) (location : Option Location) :
    (casing c kind location).diagnostics =
      if c.isIdentifierSafe then [] else [⟨kind, location, [c.name]⟩] := by
  unfold casing
  split <;> rfl

/-- The preference that is given is taken, whatever is wrong with its casings. -/
theorem naming_of_naming? (h : a.naming? = some n) (fallback : Naming) :
    naming a fallback = ⟨n, a.casingFaults⟩ := by
  ext1
  · rw [value_naming, h, Option.getD_some]
  · unfold Attribute.casingFaults
    rw [h]
    unfold Attribute.naming? at h
    split at h
    · next source target hsource htarget =>
      obtain rfl := Option.some.inj h
      unfold naming
      rw [hsource, htarget]
      simp [diagnostics_casing]
    · cases h

theorem naming_of_naming?_eq_none (h : a.naming? = none) (fallback : Naming) :
    naming a fallback = .defaulted fallback ⟨.namingArguments, a.location, []⟩ := by
  unfold Attribute.naming? at h
  unfold naming
  split
  · next hsource htarget =>
    rw [hsource, htarget] at h
    cases h
  · rfl

theorem projectNaming_of_two_le (h : 2 ≤ a.args.length) (hn : a.naming? = some n) :
    projectNaming (some a) = ⟨some n, a.casingFaults⟩ := by
  rw [projectNaming, if_neg (Nat.not_lt.2 h), naming_of_naming? hn]
  rfl

theorem projectNaming_of_lt_two (h : a.args.length < 2) :
    projectNaming (some a) = .defaulted none ⟨.namingArguments, a.location, []⟩ := by
  rw [projectNaming, if_pos h]

end Check

/-! ### Types -/

namespace EnumType

/-- The type with another naming preference, or none. -/
def withNaming (e : EnumType) (attr : Option Attribute) : EnumType := { e with naming := attr }

/-- The diagnostics about the exclusion of a type and the prefix of its accessors. -/
def diagnosticsBeforeNaming (e : EnumType) : List Diagnostic :=
  (Check.exclusion e.exclude .enumExclusionType).diagnostics ++
  (Check.identifier e.accessorPrefix none .accessorPrefix).diagnostics

/-- The diagnostics about the members of a type, the groups that it declares, and the references to
groups. -/
def diagnosticsBehindNaming (e : EnumType) : List Diagnostic :=
  (e.members.flatMap fun m => m.analyze.diagnostics) ++
  (GroupDeclaration.collect e.groups none).diagnostics ++
  e.references.flatMap e.referenceDiagnostics

variable {e : EnumType} {attr attr' : Option Attribute} {project project' : Option Naming}

theorem isCovered_withNaming : (e.withNaming attr).IsCovered ↔ e.IsCovered :=
  isCovered_congr rfl rfl

/-- What is said about the preference of a covered type has its place behind what is said about the
type, and before what is said about the members. -/
theorem diagnostics_analyze_withNaming (h : e.IsCovered) (attr : Option Attribute)
    (project : Option Naming) :
    ((e.withNaming attr).analyze project).diagnostics =
      e.diagnosticsBeforeNaming ++ (Check.typeNaming attr project).diagnostics ++
        e.diagnosticsBehindNaming := by
  have hexclude : (Check.exclusion e.exclude .enumExclusionType).diagnostics = [] := by
    rw [Check.exclusion_of_isLifted h.exclude, Checked.diagnostics_ok]
  rw [diagnostics_analyze_of_isCovered (isCovered_withNaming.2 h), ownDiagnostics,
    diagnosticsBeforeNaming, diagnosticsBehindNaming, hexclude]
  simp only [List.nil_append, List.append_assoc]
  rfl

/-- On other types nobody looks at a preference. -/
theorem analyze_withNaming_of_not_isCovered (h : ¬ e.IsCovered) :
    (e.withNaming attr).analyze project = (e.withNaming attr').analyze project' :=
  analyze_congr_of_not_isCovered rfl rfl (mt isCovered_withNaming.1 h)

/-- The descriptor depends on the preference that is found, not on where it was written. -/
theorem value_analyze_withNaming
    (h : (Check.typeNaming attr project).value = (Check.typeNaming attr' project').value) :
    ((e.withNaming attr).analyze project).value =
      ((e.withNaming attr').analyze project').value := by
  by_cases hcovered : e.IsCovered
  · have hchosen : ∀ attr project, (e.withNaming attr).chosenNaming project =
        (Check.typeNaming attr project).value := fun attr project =>
      (Check.value_typeNaming attr project).symm
    rw [analyze_of_isCovered (isCovered_withNaming.2 hcovered),
      analyze_of_isCovered (isCovered_withNaming.2 hcovered), Checked.value_map, Checked.value_map,
      value_describe, value_describe, hchosen, hchosen, h]
    rfl
  · rw [analyze_withNaming_of_not_isCovered hcovered]

end EnumType

/-! ### A preference of the project on each type -/

/-- The type with a preference written on it, unless it has one of its own. -/
def EnumType.takeNaming (p : Attribute) (e : EnumType) : EnumType :=
  e.withNaming (e.naming.or (some p))

/-- The declaration with a preference written on the type that it stands for. -/
def Declaration.takeNaming (p : Attribute) (d : Declaration) : Declaration :=
  { d with symbol := d.symbol.map (EnumType.takeNaming p) }

/-- The compilation with a preference written on each type that has none of its own, instead of on
the project. -/
def Compilation.spreadNaming (c : Compilation) (p : Attribute) : Compilation where
  naming := none
  enums := c.enums.map (Declaration.takeNaming p)

/-- A declaration stands for a type that gets accessors and has no preference of its own. -/
def Declaration.LacksNaming (d : Declaration) : Prop :=
  ∃ e ∈ d.symbol, e.IsCovered ∧ e.naming = none

instance (d : Declaration) : Decidable d.LacksNaming :=
  inferInstanceAs (Decidable (∃ e ∈ d.symbol, e.IsCovered ∧ e.naming = none))

/-- What is said about a declaration for a preference that is written on its type. -/
def Declaration.takenFaults (d : Declaration) (p : Attribute) : List Diagnostic :=
  if d.LacksNaming then p.casingFaults else []

section Spreading

variable {p : Attribute} {n : Naming} (hp : p.naming? = some n)
include hp

namespace EnumType

variable {e : EnumType} (he : ∀ a ∈ e.naming, 2 ≤ a.args.length)
include he

theorem value_typeNaming_takeNaming :
    (Check.typeNaming (e.naming.or (some p)) none).value =
      (Check.typeNaming e.naming (some n)).value := by
  cases hnaming : e.naming with
  | none => simp [hp]
  | some a =>
    obtain ⟨m, hm⟩ := Attribute.exists_naming? (he a hnaming)
    simp [hm]

theorem value_analyze_takeNaming :
    ((e.takeNaming p).analyze none).value = (e.analyze (some n)).value :=
  value_analyze_withNaming (value_typeNaming_takeNaming hp he)

/-- The faults of the preference are reported on the type that it is written on, and all else is
reported as before. -/
theorem exists_diagnostics_takeNaming :
    ∃ before behind, (e.analyze (some n)).diagnostics = before ++ behind ∧
      ((e.takeNaming p).analyze none).diagnostics =
        before ++ (if e.IsCovered ∧ e.naming = none then p.casingFaults else []) ++ behind := by
  have hsame : e.withNaming e.naming = e := rfl
  by_cases hcovered : e.IsCovered
  · have hbefore := diagnostics_analyze_withNaming hcovered e.naming (some n)
    have hafter := diagnostics_analyze_withNaming hcovered (e.naming.or (some p)) none
    rw [hsame] at hbefore
    cases hnaming : e.naming with
    | none =>
      refine ⟨e.diagnosticsBeforeNaming, e.diagnosticsBehindNaming, ?_, ?_⟩
      · rw [hbefore, hnaming]
        exact congrArg (· ++ _) (List.append_nil _)
      · rw [takeNaming, hafter, hnaming, if_pos ⟨hcovered, rfl⟩]
        simp only [Option.none_or, Check.typeNaming, Check.naming_of_naming? hp]
    | some a =>
      -- the own preference of the type is read alike, with whatever is wrong with it
      obtain ⟨m, hm⟩ := Attribute.exists_naming? (he a hnaming)
      refine ⟨(e.analyze (some n)).diagnostics, [], (List.append_nil _).symm, ?_⟩
      rw [takeNaming, hafter, hbefore, hnaming, if_neg (by simp)]
      simp only [Option.some_or, Check.typeNaming, Check.naming_of_naming? hm, List.append_nil]
  · refine ⟨(e.analyze (some n)).diagnostics, [], (List.append_nil _).symm, ?_⟩
    have hrest : (e.takeNaming p).analyze none = (e.withNaming e.naming).analyze (some n) :=
      analyze_withNaming_of_not_isCovered hcovered
    rw [if_neg fun h => hcovered h.1, List.append_nil, List.append_nil, hrest, hsame]

end EnumType

namespace Declaration

variable {d : Declaration} (hd : ∀ e ∈ d.symbol, ∀ a ∈ e.naming, 2 ≤ a.args.length)
include hd

theorem value_analyze_takeNaming :
    ((d.takeNaming p).analyze none).value = (d.analyze (some n)).value := by
  cases h : d.symbol with
  | none => simp [analyze, takeNaming, h]
  | some e => simp [analyze, takeNaming, h, EnumType.value_analyze_takeNaming hp (hd e h)]

theorem exists_diagnostics_takeNaming :
    ∃ before behind, (d.analyze (some n)).diagnostics = before ++ behind ∧
      ((d.takeNaming p).analyze none).diagnostics = before ++ d.takenFaults p ++ behind := by
  cases h : d.symbol with
  | none =>
    refine ⟨(d.analyze (some n)).diagnostics, [], (List.append_nil _).symm, ?_⟩
    simp [analyze, takeNaming, takenFaults, LacksNaming, h]
  | some e =>
    obtain ⟨before, behind, hbefore, hafter⟩ := EnumType.exists_diagnostics_takeNaming hp (hd e h)
    refine ⟨before, behind, ?_, ?_⟩
    · simp only [analyze, h, hbefore]
    · simpa [analyze, takeNaming, takenFaults, LacksNaming, h] using hafter

end Declaration

end Spreading

/-! ### Passes with the preference on the project and on each type -/

/-- How the outputs of a pass differ where a preference is written on the project (`out`) and where
it is written on each type of `ds` that has none (`out'`). -/
structure Output.Spread (p : Attribute) (ds : List Declaration) (out out' : Output) : Prop where
  units : out'.units = out.units
  eq_of_isSupported : (∀ n ∈ p.naming?, n.isSupported = true) → out' = out
  /-- The faults of the preference stand at the head once, or with each type that has taken it;
  before and behind them everything is the same. -/
  diagnostics : ∃ before behind : Declaration → List Diagnostic,
    out.diagnostics = p.casingFaults ++ ds.flatMap (fun d => before d ++ behind d) ∧
    out'.diagnostics = ds.flatMap (fun d => before d ++ d.takenFaults p ++ behind d) ∧
    (∀ r ∈ out.reports, ∃ d, ds[r.index]? = some d ∧ r.diagnostics = before d ++ behind d) ∧
    ∀ r ∈ out'.reports, ∃ d, ds[r.index]? = some d ∧
      r.diagnostics = before d ++ d.takenFaults p ++ behind d

theorem Report.all_map_congr {project project' : Option Naming} {f : Declaration → Declaration}
    {ds : List Declaration} (hname : ∀ d ∈ ds, (f d).name = d.name)
    (h : ∀ d ∈ ds, ((f d).analyze project').diagnostics = (d.analyze project).diagnostics)
    (start : Nat) : all project' start (ds.map f) = all project start ds := by
  rw [all, List.zipIdx_map, List.filterMap_map, all]
  refine List.filterMap_congr fun x hx => ?_
  have hmem := List.fst_mem_of_mem_zipIdx hx
  simp only [Function.comp_apply, Prod.map_fst, Prod.map_snd, id_eq, of?, hname _ hmem, h _ hmem]

namespace Compilation

section Spreading

variable {c : Compilation} {p : Attribute} (hproject : c.naming = some p) (hp : 2 ≤ p.args.length)
  (htypes : ∀ d ∈ c.enums, ∀ e ∈ d.symbol, ∀ a ∈ e.naming, 2 ≤ a.args.length) (o : Options)
include hproject hp htypes

theorem units_spreadNaming : ((c.spreadNaming p).output o).units = (c.output o).units := by
  obtain ⟨n, hn⟩ := Attribute.exists_naming? hp
  simp only [output, spreadNaming, hproject, Check.projectNaming_of_two_le hp hn,
    List.filterMap_map]
  refine List.filterMap_congr fun d hd => ?_
  exact congrArg (Option.bind · _) (Declaration.value_analyze_takeNaming hn (htypes d hd))

/-- Without faults there is nothing to move. -/
theorem output_spreadNaming (hsupported : ∀ n ∈ p.naming?, n.isSupported = true) :
    (c.spreadNaming p).output o = c.output o := by
  obtain ⟨n, hn⟩ := Attribute.exists_naming? hp
  have hfaults := Attribute.casingFaults_of_isSupported hsupported
  have hsame : ∀ d ∈ c.enums,
      ((d.takeNaming p).analyze none).diagnostics = (d.analyze (some n)).diagnostics := by
    intro d hd
    obtain ⟨before, behind, hbefore, hafter⟩ :=
      Declaration.exists_diagnostics_takeNaming hn (htypes d hd)
    rw [hafter, hbefore, Declaration.takenFaults, hfaults, ite_self, List.append_nil]
  have hdiagnostics : ((c.spreadNaming p).output o).diagnostics = (c.output o).diagnostics := by
    simp only [output, spreadNaming, hproject, Check.projectNaming_of_two_le hp hn, hfaults,
      List.flatMap_map, List.nil_append]
    exact List.flatMap_congr hsame
  have hreports : ((c.spreadNaming p).output o).reports = (c.output o).reports := by
    simp only [output, spreadNaming, hproject, Check.projectNaming_of_two_le hp hn]
    exact Report.all_map_congr (f := Declaration.takeNaming p) (fun _ _ => rfl) hsame 0
  have hunits := units_spreadNaming hproject hp htypes o
  exact (Output.mk.injEq ..).mpr ⟨hunits, hdiagnostics, hreports⟩

theorem spread_output : Output.Spread p c.enums (c.output o) ((c.spreadNaming p).output o) := by
  obtain ⟨n, hn⟩ := Attribute.exists_naming? hp
  have hproject' : Check.projectNaming c.naming = ⟨some n, p.casingFaults⟩ := by
    rw [hproject, Check.projectNaming_of_two_le hp hn]
  choose! before behind hbefore hafter using fun d hd =>
    Declaration.exists_diagnostics_takeNaming hn (htypes d hd)
  refine ⟨units_spreadNaming hproject hp htypes o, output_spreadNaming hproject hp htypes o,
    before, behind, ?_, ?_, ?_, ?_⟩
  · simp only [output, hproject', List.flatMap_congr hbefore]
  · rw [← List.flatMap_congr hafter]
    exact List.flatMap_map _ _ _
  · intro r hr
    obtain ⟨d, hget, -, hdiagnostics⟩ := (c.coherent_output o).sound r hr
    rw [hproject', hbefore d (List.mem_of_getElem? hget)] at hdiagnostics
    exact ⟨d, hget, hdiagnostics⟩
  · intro r hr
    obtain ⟨d', hget', -, hdiagnostics⟩ := ((c.spreadNaming p).coherent_output o).sound r hr
    rw [spreadNaming, List.getElem?_map, Option.map_eq_some_iff] at hget'
    obtain ⟨d, hget, rfl⟩ := hget'
    exact ⟨d, hget, hdiagnostics.trans (hafter d (List.mem_of_getElem? hget))⟩

end Spreading

/-- **A preference of the project is as good as one on each type.**  Where the types that have a
preference of their own give both casings, a pass gives the same sources whether the project has a
preference `p` or each type without one has it.  If names in both casings are identifiers, all of
the output is the same; else the faults of `p` are reported at the head in the one case, and in the
other with each type that gets accessors and has taken `p`. -/
theorem run_spreadNaming {c : Compilation} {p : Attribute} {o : Options}
    (hproject : c.naming = some p) (hp : 2 ≤ p.args.length)
    (htypes : ∀ d ∈ c.enums, ∀ e ∈ d.symbol, ∀ a ∈ e.naming, 2 ≤ a.args.length)
    (ho : o.fault? = none) :
    ∃ out out', c.run o (fun _ => false) = .ok out ∧
      (c.spreadNaming p).run o (fun _ => false) = .ok out' ∧ Output.Spread p c.enums out out' ∧
      ∀ cancelled, (c.spreadNaming p).run o cancelled = (c.run o cancelled).map fun _ => out' := by
  refine ⟨c.output o, (c.spreadNaming p).output o, run_eq_ok ho fun _ _ => rfl,
    run_eq_ok ho fun _ _ => rfl, spread_output hproject hp htypes o, fun cancelled => ?_⟩
  exact run_eq_map (List.length_map _) rfl cancelled

/-- A preference for a casing with dashes.  It is taken by the types `S` and `T`, but not by those
that get no accessors, and not by `K`, which has a faulty preference of its own. -/
theorem run_spreadNaming_train :
    let p : Attribute :=
      { args := [.text "PASCAL", .text "TRAIN"], location := some ⟨"project.cs", 1, 1⟩ }
    let member : Member := { name := "A", exclude := some { args := [.int 0] } }
    let own : Attribute := { args := [.null, .text "SNAKE"] }
    let c : Compilation :=
      { naming := some p
        enums :=
          [.unresolved "U" none,
           .resolved { name := "P", fullName := "P", accessibility := .private },
           .resolved { name := "X", fullName := "X", accessibility := .public
                       exclude := some { args := [.null] } },
           .resolved { name := "S", fullName := "S", accessibility := .public
                       accessorPrefix := some {}, members := [member, { name := "B" }] },
           .resolved { name := "K", fullName := "K", accessibility := .public
                       naming := some own },
           .resolved { name := "T", fullName := "T", accessibility := .internal
                       members := [{ name := "B" }] }] }
    c.naming = some p ∧ 2 ≤ p.args.length ∧
      (∀ d ∈ c.enums, ∀ e ∈ d.symbol, ∀ a ∈ e.naming, 2 ≤ a.args.length) ∧
      Options.fault? {} = none ∧
      ∃ out out', c.run {} (fun _ => false) = .ok out ∧
        (c.spreadNaming p).run {} (fun _ => false) = .ok out' ∧ out'.units = out.units ∧
        out.units.map SourceUnit.typeName = ["SExtensions", "TExtensions"] ∧
        out.diagnostics.map Diagnostic.kind =
          [.targetCasing, .unresolvedDeclaration, .enumExclusionType, .prefixAbsent,
            .flagExclusionType, .sourceCasing] ∧
        out'.diagnostics.map Diagnostic.kind =
          [.unresolvedDeclaration, .enumExclusionType, .prefixAbsent, .targetCasing,
            .flagExclusionType, .sourceCasing, .targetCasing] := by
  intro p member own c
  have hp : 2 ≤ p.args.length := by decide
  have htypes : ∀ d ∈ c.enums, ∀ e ∈ d.symbol, ∀ a ∈ e.naming, 2 ≤ a.args.length := by decide
  have ho : Options.fault? {} = none := by decide
  obtain ⟨out, out', hrun, hrun', hspread, -⟩ := run_spreadNaming (c := c) rfl hp htypes ho
  refine ⟨rfl, hp, htypes, ho, out, out', hrun, hrun', hspread.units, ?_⟩
  obtain ⟨-, -, rfl⟩ := run_eq_ok_iff.1 hrun
  obtain ⟨-, -, rfl⟩ := run_eq_ok_iff.1 hrun'
  decide

end Compilation

/-! ### No usable preference -/

/-- A project whose preference is malformed has none, and this is reported once at the head. -/
theorem Compilation.run_of_lt_two {a : Attribute} (ha : a.args.length < 2)
    (ds : List Declaration) (o : Options) (cancelled : Nat → Bool) :
    run ⟨some a, ds⟩ o cancelled = (run ⟨none, ds⟩ o cancelled).map fun out =>
      { out with diagnostics := ⟨.namingArguments, a.location, []⟩ :: out.diagnostics } := by
  have houtput : output ⟨some a, ds⟩ o =
      let out := output ⟨none, ds⟩ o
      { out with diagnostics := ⟨.namingArguments, a.location, []⟩ :: out.diagnostics } := by
    simp only [output, Check.projectNaming_of_lt_two ha]
    rfl
  have hlength : (⟨some a, ds⟩ : Compilation).enums.length = ds.length := rfl
  exact run_eq_map hlength houtput cancelled

namespace EnumType

/-- **A preference that is absent or malformed is neutral.**  A type without a preference, or with
one that gives fewer than two casings, has the descriptor and the source that it has with the
preference to keep names in Pascal case, and one diagnostic more, which stands behind those about
its exclusion and its prefix and before those about its members.  A malformed preference of the
project is as good as none, but for one diagnostic at the head of the output. -/
theorem neutral_of_naming_unusable {e : EnumType} {a : Attribute} (h : e.IsCovered)
    (ha : a.args.length < 2) (place : Option Location) :
    let explicit :=
      e.withNaming (some { args := [.text "PASCAL", .text "PASCAL"], location := place })
    let absent := e.withNaming none
    let malformed := e.withNaming (some a)
    (∃ d, (explicit.analyze none).value = some d ∧ (absent.analyze none).value = some d ∧
      (malformed.analyze none).value = some d) ∧
    (∀ o, (absent.generate none o).value = (explicit.generate none o).value ∧
      (malformed.generate none o).value = (explicit.generate none o).value) ∧
    (explicit.analyze none).diagnostics =
      e.diagnosticsBeforeNaming ++ e.diagnosticsBehindNaming ∧
    (absent.analyze none).diagnostics =
      e.diagnosticsBeforeNaming ++ [⟨.namingAbsent, none, []⟩] ++ e.diagnosticsBehindNaming ∧
    (malformed.analyze none).diagnostics =
      e.diagnosticsBeforeNaming ++ [⟨.namingArguments, a.location, []⟩] ++
        e.diagnosticsBehindNaming ∧
    ∀ (ds : List Declaration) (o : Options) (cancelled : Nat → Bool),
      Compilation.run ⟨some a, ds⟩ o cancelled =
        (Compilation.run ⟨none, ds⟩ o cancelled).map fun out =>
          { out with diagnostics := ⟨.namingArguments, a.location, []⟩ :: out.diagnostics } := by
  intro explicit absent malformed
  have hnaming := Attribute.naming?_eq_none ha
  -- all three give the default
  have hgiven : (Check.typeNaming explicit.naming none).value = .default := rfl
  have hfallback : (Check.typeNaming (some a) none).value = .default := by
    rw [Check.typeNaming, Check.naming_of_naming?_eq_none hnaming]
    rfl
  have habsent : (absent.analyze none).value = (explicit.analyze none).value :=
    value_analyze_withNaming hgiven.symm
  have hmalformed : (malformed.analyze none).value = (explicit.analyze none).value :=
    value_analyze_withNaming (hfallback.trans hgiven.symm)
  refine ⟨⟨(explicit.describe none).value, ?_⟩, fun o => ⟨?_, ?_⟩, ?_, ?_, ?_,
    Compilation.run_of_lt_two ha⟩
  · have hexplicit : (explicit.analyze none).value = some (explicit.describe none).value :=
      value_analyze_eq_some_iff.2 ⟨isCovered_withNaming.2 h, rfl⟩
    exact ⟨hexplicit, habsent.trans hexplicit, hmalformed.trans hexplicit⟩
  · rw [generate, generate, Checked.value_map, Checked.value_map, habsent]
  · rw [generate, generate, Checked.value_map, Checked.value_map, hmalformed]
  · rw [diagnostics_analyze_withNaming h]
    exact congrArg (· ++ _) (List.append_nil _)
  · exact diagnostics_analyze_withNaming h none none
  · rw [diagnostics_analyze_withNaming h, Check.typeNaming,
      Check.naming_of_naming?_eq_none hnaming, Checked.diagnostics_defaulted]

/-- A type with a wrong exclusion on a member and a wrong prefix of its own, whose preference gives
only one casing. -/
theorem neutral_of_naming_unusable_single :
    let e : EnumType :=
      { name := "E", fullName := "E", accessibility := .internal
        exclude := some { args := [.bool false] }, accessorPrefix := some { args := [.text "1st"] }
        members := [{ name := "A", exclude := some { args := [.null] } }, { name := "B" }] }
    let a : Attribute := { args := [.text "SNAKE"], location := some ⟨"e.cs", 1, 2⟩ }
    let explicit := e.withNaming (some { args := [.text "PASCAL", .text "PASCAL"] })
    let malformed := e.withNaming (some a)
    e.IsCovered ∧ a.args.length < 2 ∧
      (malformed.generate none {}).value = (explicit.generate none {}).value ∧
      (explicit.analyze none).diagnostics.map Diagnostic.kind =
        [.prefixInvalid, .flagExclusionType] ∧
      (malformed.analyze none).diagnostics.map Diagnostic.kind =
        [.prefixInvalid, .namingArguments, .flagExclusionType] := by
  intro e a explicit malformed
  have h : e.IsCovered := by decide
  have ha : a.args.length < 2 := by decide
  obtain ⟨-, hgenerate, hexplicit, -, hmalformed, -⟩ := neutral_of_naming_unusable h ha none
  refine ⟨h, ha, (hgenerate {}).2, ?_, ?_⟩
  · rw [hexplicit]
    decide
  · rw [hmalformed]
    decide

end EnumType

end EnumAccessors

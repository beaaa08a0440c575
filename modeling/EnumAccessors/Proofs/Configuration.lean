import EnumAccessors.Proofs.Cancellation
import EnumAccessors.Proofs.Generate
import EnumAccessors.Proofs.Sources

/-!
# Passes under two configurations

A configuration decides how sources are written.  It has no part in the analysis, and as long as it
makes sense it does not decide which types have a source either.

* `Compilation.sameButTexts_output`: under two configurations that make sense the outputs of a pass
  differ in the texts of the sources at most.
* `Compilation.log_congr`: the log is the same as well.
* `Compilation.run_options`: so `check` and `fixes`, which use the default configuration, show the
  diagnostics and the fixes of the pass that `generate` makes under another one.
-/

namespace EnumAccessors

/-- All of a source but its text. -/
def SourceUnit.label (u : SourceUnit) : String × String := (u.hintName, u.typeName)

namespace Descriptor

variable {d : Descriptor} {o o' : Options}

/-- How the source of a type is labelled, if there is one. -/
def label? (d : Descriptor) : Option (String × String) :=
  if d.accessors = [] then none else some (d.extensionName ++ ".g.cs", d.extensionName)

theorem map_label_generate (ho : o.methods = true ∨ o.properties = true) :
    (d.generate o).map SourceUnit.label = d.label? := by
  have hsome := isSome_generate_iff (d := d) ho
  unfold label?
  split
  · next hnil =>
    have hnone : ¬ (d.generate o).isSome = true := fun h => hsome.1 h hnil
    rw [Option.not_isSome_iff_eq_none.1 hnone, Option.map_none]
  · next hne =>
    obtain ⟨u, hu⟩ := Option.isSome_iff_exists.1 (hsome.2 hne)
    rw [hu, Option.map_some]
    unfold generate at hu
    split at hu
    · cases hu
    · obtain rfl := Option.some.inj hu
      rfl

theorem log_congr (ho : o.methods = true ∨ o.properties = true)
    (ho' : o'.methods = true ∨ o'.properties = true) : d.log o = d.log o' := by
  have hlabels : (d.generate o).map SourceUnit.label = (d.generate o').map SourceUnit.label := by
    rw [map_label_generate ho, map_label_generate ho']
  unfold log
  cases hunit : d.generate o with
  | none =>
    rw [hunit, Option.map_none, eq_comm, Option.map_eq_none_iff] at hlabels
    rw [hlabels]
  | some u =>
    rw [hunit, Option.map_some, eq_comm, Option.map_eq_some_iff] at hlabels
    obtain ⟨u', hunit', -⟩ := hlabels
    rw [hunit']

end Descriptor

theorem Declaration.map_label_unit? {o : Options} (ho : o.methods = true ∨ o.properties = true)
    (project : Option Naming) (d : Declaration) :
    (d.unit? o project).map SourceUnit.label =
      (d.analyze project).value.bind Descriptor.label? := by
  rw [unit?, Option.map_bind]
  exact congrArg _ (funext fun descriptor => Descriptor.map_label_generate ho)

/-! ### Outputs -/

/-- Two outputs differ in the texts of their sources at most. -/
structure Output.SameButTexts (out out' : Output) : Prop where
  diagnostics : out.diagnostics = out'.diagnostics
  reports : out.reports = out'.reports
  units : out.units.map SourceUnit.label = out'.units.map SourceUnit.label

namespace Output

variable {out out' : Output}

/-- The same fixes are offered. -/
theorem SameButTexts.fixes (h : out.SameButTexts out') (c : Compilation) :
    out.fixes c = out'.fixes c := by
  rw [Output.fixes, h.reports, Output.fixes]

theorem SameButTexts.log (h : out.SameButTexts out') (c : Compilation) :
    out.log c = out'.log c := by
  have hlength : out.units.length = out'.units.length := by
    have hlabels := congrArg List.length h.units
    rwa [List.length_map, List.length_map] at hlabels
  rw [Output.log, h.diagnostics, hlength, Output.log]

end Output

theorem Compilation.sameButTexts_output (c : Compilation) {o o' : Options} (ho : o.fault? = none)
    (ho' : o'.fault? = none) : (c.output o).SameButTexts (c.output o') where
  diagnostics := rfl
  reports := rfl
  units := by
    have henabled := Options.enabled_of_fault?_eq_none ho
    have henabled' := Options.enabled_of_fault?_eq_none ho'
    simp only [output, List.map_filterMap, Declaration.map_label_unit? henabled,
      Declaration.map_label_unit? henabled']

/-! ### Logs -/

section Logs

variable {o o' : Options} (ho : o.fault? = none) (ho' : o'.fault? = none)
include ho ho'

theorem EnumType.log_congr (e : EnumType) (project : Option Naming) :
    e.log project o = e.log project o' := by
  have hlog : ∀ d : Descriptor, d.log o = d.log o' := fun d =>
    d.log_congr (Options.enabled_of_fault?_eq_none ho) (Options.enabled_of_fault?_eq_none ho')
  simp only [log, hlog]

theorem Declaration.logAll_congr (cancelled : Nat → Bool) (project : Option Naming) (index : Nat)
    (ds : List Declaration) :
    logAll cancelled project o index ds = logAll cancelled project o' index ds := by
  induction ds generalizing index with
  | nil => rfl
  | cons d rest ih =>
    have hlog : (fun e : EnumType => e.log project o) = fun e => e.log project o' :=
      funext fun e => e.log_congr ho ho' project
    rw [logAll, logAll, ih, hlog]

theorem Compilation.log_congr (c : Compilation) (cancelled : Nat → Bool) :
    c.log o cancelled = c.log o' cancelled := by
  simp only [log, ho, ho', Declaration.logAll_congr ho ho']
  refine congrArg _ ?_
  by_cases h : ∃ i < c.enums.length, cancelled i = true
  · rw [run_of_cancelled ho h, run_of_cancelled ho' h]
  · have hnone := forall_eq_false_of_not_cancelled h
    rw [run_eq_ok ho hnone, run_eq_ok ho' hnone]
    exact congrArg ([·]) ((c.sameButTexts_output ho ho').log c)

end Logs

/-! ### Commands -/

namespace Command

variable {read : Reader} {verbose : Bool} {input : String} {c : Compilation} {o given : Options}
  {out : Output}

/-- What is done with the output of a pass comes behind its log. -/
theorem withPass_of_run (hrun : c.run o (fun _ => false) = .ok out) (use : Output → Plan) :
    withPass verbose c o use =
      (use out).before (logEffects verbose (c.log o fun _ => false)) := by
  rw [withPass, hrun]

theorem checkLines_congr {out' : Output} (json : Bool) (h : out.SameButTexts out') :
    checkLines json out = checkLines json out' := by
  simp only [checkLines, Output.errorCount, h.diagnostics]

theorem fixListing_congr {out' : Output} (c : Compilation) (h : out.SameButTexts out') :
    fixListing c out = fixListing c out' := by
  rw [fixListing, h.reports, fixListing]

/-- The three commands work on one output of a pass: `generate` reports its diagnostics and writes
its sources, `check` shows the diagnostics, and `fixes` shows the fixes for them.  All three write
the log of that pass, which `generate` starts with the settings. -/
structure OnePass (read : Reader) (verbose : Bool) (input : String)
    (output config : Option String) (noProperties noMethods : Bool) (c : Compilation)
    (o : Options) (out : Output) : Prop where
  generate : planGenerate read verbose input output config noProperties noMethods =
    { effects :=
        logEffects verbose [⟨.debug, LogLine.passTarget, "generator options: " ++ o.logText⟩] ++
          (logEffects verbose (c.log o fun _ => false) ++
            ((out.diagnostics.map fun d => .printErr d.render) ++ unitEffects output out.units)) }
  check : ∀ json, planCheck read verbose input json =
    { effects :=
        logEffects verbose (c.log o fun _ => false) ++ (checkLines json out).map .printOut
      result := if out.errorCount = 0 then .ok () else .error (.diagnosticErrors out.errorCount) }
  fixes : planFixes read verbose input =
    { effects :=
        logEffects verbose (c.log o fun _ => false) ++ (fixListing c out).map .printOut }

theorem onePass_of_run {output config : Option String} {noProperties noMethods : Bool}
    (hload : load read Compilation.ofJsonText input = .ok c)
    (hoptions : loadOptions read config = .ok given)
    (ho : (given.disable noMethods noProperties).fault? = none)
    (hrun : c.run (given.disable noMethods noProperties) (fun _ => false) = .ok out) :
    OnePass read verbose input output config noProperties noMethods c
      (given.disable noMethods noProperties) out := by
  have hdefault : Options.fault? {} = none := by decide
  -- What the other two commands run on.
  have hrun' : c.run {} (fun _ => false) = .ok (c.output {}) :=
    Compilation.run_eq_ok hdefault fun _ _ => rfl
  have hsame : (c.output {}).SameButTexts out := by
    obtain ⟨-, -, rfl⟩ := Compilation.run_eq_ok_iff.1 hrun
    exact c.sameButTexts_output hdefault ho
  have hlog := c.log_congr hdefault ho fun _ => false
  refine ⟨?_, fun json => ?_, ?_⟩
  · simp only [planGenerate, hload, hoptions, withPass_of_run hrun, Plan.before]
  · have hcount : (c.output {}).errorCount = out.errorCount := by
      rw [Output.errorCount, hsame.diagnostics, Output.errorCount]
    simp only [planCheck, hload, withPass_of_run hrun', hlog, Plan.before,
      checkLines_congr json hsame, hcount]
  · simp only [planFixes, hload, withPass_of_run hrun', hlog, Plan.before,
      fixListing_congr c hsame]

end Command

/-- **A configuration has no part in the analysis.**  Under two configurations that make sense a
pass gives the same diagnostics, the same reports and fixes, and sources of the same names in the
same order.  So what `check` and `fixes` show under the default configuration is about the very
pass that `generate` makes under another one. -/
theorem Compilation.run_options {c : Compilation} {o o' : Options} (ho : o.fault? = none)
    (ho' : o'.fault? = none) :
    ∃ out out', c.run o (fun _ => false) = .ok out ∧ c.run o' (fun _ => false) = .ok out' ∧
      out.SameButTexts out' ∧ out.fixes c = out'.fixes c ∧
      ∀ (read : Command.Reader) (verbose : Bool) (input : String) (output config : Option String)
        (noProperties noMethods : Bool) (given : Options),
        Command.load read Compilation.ofJsonText input = .ok c →
        Command.loadOptions read config = .ok given → given.disable noMethods noProperties = o →
        Command.OnePass read verbose input output config noProperties noMethods c o out := by
  have hrun : c.run o (fun _ => false) = .ok (c.output o) := run_eq_ok ho fun _ _ => rfl
  have hsame := c.sameButTexts_output ho ho'
  refine ⟨c.output o, c.output o', hrun, run_eq_ok ho' fun _ _ => rfl, hsame, hsame.fixes c, ?_⟩
  rintro read verbose input output config noProperties noMethods given hload hoptions rfl
  exact Command.onePass_of_run hload hoptions ho hrun

/-- Methods are switched off for a type with an unknown group: its source is another one, but
`check` and `fixes` speak of the pass that writes it. -/
theorem Compilation.run_options_noMethods :
    let c : Compilation :=
      { naming := some { args := [.text "PASCAL", .text "PASCAL"] }
        enums :=
          [.resolved { name := "E", fullName := "E", accessibility := .public
                       members := [{ name := "A", groups := [{ args := [.text "G"] }] }] }] }
    let t : FileTree := { files := [(["c.json"], some c.toJsonText)] }
    let o : Options := ({} : Options).disable true false
    o.fault? = none ∧ Options.fault? {} = none ∧
      ∃ out out', c.run o (fun _ => false) = .ok out ∧ c.run {} (fun _ => false) = .ok out' ∧
        out.units ≠ out'.units ∧
        out.units.map SourceUnit.label = out'.units.map SourceUnit.label ∧
        Command.planFixes t.read false "c.json" =
          { effects := (Command.fixListing c out).map .printOut } ∧
        Command.fixListing c out =
          ["E: warning GRP-UNKNOWN: Cannot add flag to group, unknown group name 'G'",
           "  [AddGroupToEnum] Add group to enum",
           "  [RemoveGroupFromField] Remove group from field"] := by
  intro c t o
  have ho : o.fault? = none := by decide
  have ho' : Options.fault? {} = none := by decide
  have hload : Command.load t.read Compilation.ofJsonText "c.json" = .ok c :=
    FileTree.load_toJsonText rfl
  obtain ⟨out, out', hrun, hrun', hsame, -, hcommands⟩ := run_options (c := c) ho ho'
  have hpass := hcommands t.read false "c.json" none none false true {} hload rfl rfl
  obtain ⟨-, -, rfl⟩ := run_eq_ok_iff.1 hrun
  obtain ⟨-, -, rfl⟩ := run_eq_ok_iff.1 hrun'
  refine ⟨ho, ho', _, _, hrun, hrun', ?_, hsame.units, hpass.fixes, ?_⟩
  · decide +kernel
  · decide +kernel

end EnumAccessors

import EnumAccessors.Proofs.Cancellation
import EnumAccessors.Proofs.Generate

/-!
# Runs that are refused

A run of `generate` loads its input, then its configuration, and then looks at what the flags leave
of the configuration (`Options.IsSwitchedOff`).  What is wrong first is what it fails with, and
nothing has been done by then (`FileTree.Refuses`).

* `Command.planGenerate_of_load`, `Command.planGenerate_of_loadOptions` and
  `Command.planGenerate_of_fault?`: the three ways to be refused.
* `FileTree.exists_run_of_fault?_eq_none`: a run that is not refused succeeds exactly if its effects
  can be performed.
* `FileTree.refuses_or_generates`: what comes of a run, whatever is in its files.

This is about all flags and all contents of files, but not about all paths: what lies outside the
working directory can be neither read nor written (`FileTree.relativeParts`).  A request for help is
no run of `generate` (`Invocation.ofArguments`).
-/

namespace EnumAccessors

/-! ### Flags -/

namespace Options

/-- A configuration is another one with outputs switched off and nothing else changed. -/
structure IsSwitchedOff (noMethods noProperties : Bool) (base o : Options) : Prop where
  methods : o.methods = true ↔ base.methods = true ∧ noMethods = false
  properties : o.properties = true ↔ base.properties = true ∧ noProperties = false
  propertyGuard : o.propertyGuard = base.propertyGuard
  receiver : o.receiver = base.receiver

theorem isSwitchedOff_iff {noMethods noProperties : Bool} {base o : Options} :
    IsSwitchedOff noMethods noProperties base o ↔ o = base.disable noMethods noProperties := by
  constructor
  · rintro ⟨hmethods, hproperties, hguard, hreceiver⟩
    have hm : o.methods = (base.methods && !noMethods) :=
      Bool.eq_iff_iff.2 (by simpa using hmethods)
    have hp : o.properties = (base.properties && !noProperties) :=
      Bool.eq_iff_iff.2 (by simpa using hproperties)
    rw [disable, ← hm, ← hp, ← hguard, ← hreceiver]
  · rintro rfl
    exact ⟨by simp [disable], by simp [disable], rfl, rfl⟩

end Options

/-! ### Plans that fail -/

namespace Command

variable {read : Reader} {verbose : Bool} {input : String} {output config : Option String}
  {noProperties noMethods : Bool} {f : Failure} {c : Compilation} {given : Options}

/-- The line of the log about the settings. -/
def settingsLog (o : Options) : List LogLine :=
  [⟨.debug, LogLine.passTarget, "generator options: " ++ o.logText⟩]

theorem load_eq {α : Type} {decode : String → Json.Decoded α} {path text : String}
    (hread : read path = some text) : load read decode path = (decode text).mapError .json := by
  rw [load, hread]
  simp only
  cases decode text <;> rfl

theorem planGenerate_of_load (verbose : Bool) (output config : Option String)
    (noProperties noMethods : Bool) (h : load read Compilation.ofJsonText input = .error f) :
    planGenerate read verbose input output config noProperties noMethods = .fail f := by
  rw [planGenerate, h]

theorem planGenerate_of_loadOptions (verbose : Bool) (output : Option String)
    (noProperties noMethods : Bool) (hload : load read Compilation.ofJsonText input = .ok c)
    (h : loadOptions read config = .error f) :
    planGenerate read verbose input output config noProperties noMethods = .fail f := by
  simp only [planGenerate, hload, h]

/-- The settings are in the log by the time they are refused. -/
theorem planGenerate_of_fault? (verbose : Bool) (output : Option String)
    (hload : load read Compilation.ofJsonText input = .ok c)
    (hoptions : loadOptions read config = .ok given) {fault : ConfigFault}
    (h : (given.disable noMethods noProperties).fault? = some fault) :
    planGenerate read verbose input output config noProperties noMethods =
      { effects :=
          (logLines verbose (settingsLog (given.disable noMethods noProperties))).map .printErr
        result := .error (.pass (.invalidConfig fault)) } := by
  have hrun : c.run (given.disable noMethods noProperties) (fun _ => false) =
      .error (.invalidConfig fault) := Compilation.run_of_fault h
  have hlog : c.log (given.disable noMethods noProperties) (fun _ => false) = [] := by
    rw [Compilation.log, h]
  simp only [planGenerate, hload, hoptions, withPass, hrun, hlog, Plan.before, Plan.fail,
    logEffects_eq, settingsLog]
  cases verbose <;> rfl

end Command

/-! ### Runs -/

namespace FileTree

variable {t : FileTree} {args : List String} {verbose : Bool} {input : String}
  {output config : Option String} {noProperties noMethods : Bool} {log : List String} {f : Failure}

/-- A run fails before it has done anything. -/
structure Refuses (t : FileTree) (args : List String) (log : List String) (f : Failure) :
    Prop where
  /-- The failure is the one that the plan for the arguments comes to. -/
  result : ∃ i, Invocation.ofArguments args = some i ∧ (i.plan t.read).result = .error f
  exitCode : (t.runCommandLine args).exitCode = 1
  /-- Nothing is printed on standard output … -/
  stdout : (t.runCommandLine args).stdout = ""
  /-- … and nothing but the failure behind some lines of the log on standard error. -/
  stderr : (t.runCommandLine args).stderr = Outcome.printed (log ++ [f.render])
  /-- No directory has been made and no file written. -/
  tree : (t.runCommandLine args).tree = t

/-- A plan that prints lines of the log and fails is a refusal. -/
theorem refuses_of_plan {i : Invocation} (hargs : Invocation.ofArguments args = some i)
    (hplan : i.plan t.read = { effects := log.map .printErr, result := .error f }) :
    t.Refuses args log f := by
  have houtcome : t.runCommandLine args =
      { exitCode := 1, stderr := Outcome.printed (log ++ [f.render]), tree := t } := by
    have hlines := Outcome.performAll_printErr_append { tree := t } (.error f) log []
    rw [List.append_nil] at hlines
    simp only [runCommandLine, hargs, hplan, Plan.carryOut, hlines, Outcome.performAll,
      Outcome.fail, Outcome.printed, List.foldl_append, List.foldl_cons, List.foldl_nil]
  exact ⟨⟨i, hargs, by rw [hplan]⟩, by rw [houtcome], by rw [houtcome], by rw [houtcome],
    by rw [houtcome]⟩

/-- Without a fault in its options a run of `generate` is a pass under them, and it succeeds exactly
if the output of the pass can be put where it belongs. -/
theorem exists_run_of_fault?_eq_none {c : Compilation} {given : Options}
    (hargs : Invocation.ofArguments args =
      some ⟨verbose, .generate input output config noProperties noMethods⟩)
    (hload : Command.load t.read Compilation.ofJsonText input = .ok c)
    (hoptions : Command.loadOptions t.read config = .ok given)
    (ho : (given.disable noMethods noProperties).fault? = none) :
    ∃ out, c.run (given.disable noMethods noProperties) (fun _ => false) = .ok out ∧
      ((t.runCommandLine args).exitCode = 0 ↔
        ∃ done, (Command.unitEffects output out.units).foldlM Outcome.perform { tree := t } =
          some done) := by
  have hrun : c.run (given.disable noMethods noProperties) (fun _ => false) =
      .ok (c.output (given.disable noMethods noProperties)) :=
    Compilation.run_eq_ok ho fun _ _ => rfl
  refine ⟨_, hrun, ?_⟩
  rw [(runCommandLine_of_run hargs hload hoptions hrun).exitCode]
  exact Outcome.exitCode_performAll_eq_zero_iff rfl

/-- **A refused run leaves no trace.**  Whatever is in its files, a run of `generate` fails with the
first that is wrong of its input, its configuration and what the flags leave of that, and has done
nothing by then.  If nothing is wrong with them, it succeeds unless a directory cannot be made or a
file cannot be written, whatever diagnostics there are. -/
theorem refuses_or_generates
    (hargs : Invocation.ofArguments args =
      some ⟨verbose, .generate input output config noProperties noMethods⟩) :
    (∀ f, Command.load t.read Compilation.ofJsonText input = .error f → t.Refuses args [] f) ∧
      ∀ c, Command.load t.read Compilation.ofJsonText input = .ok c →
        (∀ f, Command.loadOptions t.read config = .error f → t.Refuses args [] f) ∧
        ∀ base, Command.loadOptions t.read config = .ok base →
          ∃ used, Options.IsSwitchedOff noMethods noProperties base used ∧
            (∀ fault, used.fault? = some fault →
              t.Refuses args (Command.logLines verbose (Command.settingsLog used))
                (.pass (.invalidConfig fault))) ∧
            (used.fault? = none →
              ∃ out, c.run used (fun _ => false) = .ok out ∧
                ((t.runCommandLine args).exitCode = 0 ↔
                  ∃ done,
                    (Command.unitEffects output out.units).foldlM Outcome.perform { tree := t } =
                      some done)) := by
  refine ⟨fun f hload => ?_, fun c hload => ⟨fun f hoptions => ?_, fun base hoptions => ?_⟩⟩
  · exact refuses_of_plan hargs (Command.planGenerate_of_load _ _ _ _ _ hload)
  · exact refuses_of_plan hargs (Command.planGenerate_of_loadOptions _ _ _ _ hload hoptions)
  · refine ⟨_, Options.isSwitchedOff_iff.2 rfl, fun fault ho => ?_, fun ho => ?_⟩
    · exact refuses_of_plan hargs (Command.planGenerate_of_fault? _ _ hload hoptions ho)
    · exact exists_run_of_fault?_eq_none hargs hload hoptions ho

/-- A file that holds no text and one that ends too early, each as input and as configuration, a
receiver that is no identifier, flags that leave nothing, and an input that only raises an error. -/
theorem refuses_or_generates_broken :
    let c : Compilation :=
      { enums :=
          [.resolved
            { name := "E", fullName := "E", accessibility := .public
              accessorPrefix := some { args := [.text "1"] }, members := [{ name := "A" }] }] }
    let given : Options := { receiver := "1" }
    let t : FileTree :=
      { files :=
          [(["c.json"], some c.toJsonText), (["bytes.json"], none), (["broken.json"], some "["),
           (["o.json"], some given.toJson.compact)] }
    t.Refuses ["generate", "-i", "bytes.json", "--config", "broken.json"] [] .io ∧
      t.Refuses ["generate", "-i", "broken.json", "--config", "bytes.json", "-o", "out"] []
        (.json (.text .ended)) ∧
      t.Refuses ["generate", "-i", "c.json", "--config", "bytes.json"] [] .io ∧
      t.Refuses ["generate", "-i", "c.json", "--config", "broken.json", "--no-methods"] []
        (.json (.text .ended)) ∧
      t.Refuses ["generate", "-i", "c.json", "--config", "o.json", "-o", "out"] []
        (.pass (.invalidConfig (.badReceiver "1"))) ∧
      t.Refuses ["generate", "-i", "c.json", "--no-methods", "--no-properties"] []
        (.pass (.invalidConfig .nothingEnabled)) ∧
      (c.output {}).errorCount = 1 ∧
      (t.runCommandLine ["generate", "-i", "c.json", "-o", "out"]).exitCode = 0 := by
  intro c given t
  have hc : Command.load t.read Compilation.ofJsonText "c.json" = .ok c := load_toJsonText rfl
  have hbytes : Command.load t.read Compilation.ofJsonText "bytes.json" = .error .io := rfl
  have hbytes' : Command.loadOptions t.read (some "bytes.json") = .error .io := rfl
  have hread : t.read "broken.json" = some "[" := rfl
  have hbroken : Command.load t.read Compilation.ofJsonText "broken.json" =
      .error (.json (.text .ended)) := Command.load_eq hread
  have hbroken' : Command.loadOptions t.read (some "broken.json") =
      .error (.json (.text .ended)) := by
    rw [Command.loadOptions, Command.load_eq hread]
    rfl
  have hgiven : Command.loadOptions t.read (some "o.json") = .ok given := by
    have hread : t.read "o.json" = some given.toJson.compact := rfl
    rw [Command.loadOptions, Command.load_eq hread, given.ofJsonText_toJson.1]
    rfl
  refine ⟨?_, ?_, ?_, ?_, ?_, ?_, by decide +kernel, ?_⟩
  · have hargs : Invocation.ofArguments
        ["generate", "-i", "bytes.json", "--config", "broken.json"] =
        some ⟨false, .generate "bytes.json" none (some "broken.json") false false⟩ := by
      decide +kernel
    exact (refuses_or_generates hargs).1 _ hbytes
  · have hargs : Invocation.ofArguments
        ["generate", "-i", "broken.json", "--config", "bytes.json", "-o", "out"] =
        some ⟨false, .generate "broken.json" (some "out") (some "bytes.json") false false⟩ := by
      decide +kernel
    exact (refuses_or_generates hargs).1 _ hbroken
  · have hargs : Invocation.ofArguments ["generate", "-i", "c.json", "--config", "bytes.json"] =
        some ⟨false, .generate "c.json" none (some "bytes.json") false false⟩ := by decide +kernel
    exact ((refuses_or_generates hargs).2 _ hc).1 _ hbytes'
  · have hargs : Invocation.ofArguments
        ["generate", "-i", "c.json", "--config", "broken.json", "--no-methods"] =
        some ⟨false, .generate "c.json" none (some "broken.json") false true⟩ := by decide +kernel
    exact ((refuses_or_generates hargs).2 _ hc).1 _ hbroken'
  · have hargs : Invocation.ofArguments
        ["generate", "-i", "c.json", "--config", "o.json", "-o", "out"] =
        some ⟨false, .generate "c.json" (some "out") (some "o.json") false false⟩ := by
      decide +kernel
    obtain ⟨used, hused, hrefused, -⟩ := ((refuses_or_generates hargs).2 _ hc).2 _ hgiven
    obtain rfl := Options.isSwitchedOff_iff.1 hused
    exact hrefused _ (by decide)
  · have hargs : Invocation.ofArguments
        ["generate", "-i", "c.json", "--no-methods", "--no-properties"] =
        some ⟨false, .generate "c.json" none none true true⟩ := by decide +kernel
    obtain ⟨used, hused, hrefused, -⟩ := ((refuses_or_generates hargs).2 _ hc).2 _ rfl
    obtain rfl := Options.isSwitchedOff_iff.1 hused
    exact hrefused _ (by decide)
  · have hargs : Invocation.ofArguments ["generate", "-i", "c.json", "-o", "out"] =
        some ⟨false, .generate "c.json" (some "out") none false false⟩ := by decide +kernel
    obtain ⟨used, hused, -, hgenerates⟩ := ((refuses_or_generates hargs).2 _ hc).2 _ rfl
    obtain rfl := Options.isSwitchedOff_iff.1 hused
    obtain ⟨out, hrun, hexit⟩ := hgenerates (by decide)
    obtain ⟨-, -, rfl⟩ := Compilation.run_eq_ok_iff.1 hrun
    exact hexit.2 (Option.isSome_iff_exists.1 (by decide +kernel))

end FileTree

end EnumAccessors

import EnumAccessors.Proofs.Files
import EnumAccessors.Proofs.RoundTrip

/-!
# Generating into a directory

Whether a run of `generate` comes to its output depends on the files it reads and on the options
(`Command.exists_run_of_result`); apart from lines on standard error it then writes the units of a
pass and does nothing else (`FileTree.runCommandLine_of_run`).

The file of a unit is named by the hint name alone, which is made of the simple name of the type.
So units of distinct hint names each have a file of their own with exactly their text
(`FileTree.read_generated`), but of two types that share a simple name, in different namespaces,
one overwrites the other (`FileTree.read_generated_overwritten`).

The directory lies in the working directory, since a run that writes outside of it does not succeed
in a tree (`FileTree.relativeParts`).
-/

namespace EnumAccessors

namespace Command

variable {read : Reader} {verbose : Bool} {input : String} {output config : Option String}
  {noProperties noMethods : Bool}

/-- The lines of the log that are shown. -/
def logLines (verbose : Bool) (log : List LogLine) : List String :=
  if verbose then log.map LogLine.render else []

/-- The log is printed line by line. -/
theorem logEffects_eq (verbose : Bool) (log : List LogLine) :
    logEffects verbose log = (logLines verbose log).map .printErr := by
  cases verbose <;> simp [logEffects, logLines]

theorem exists_logEffects (verbose : Bool) (log : List LogLine) :
    ∃ lines : List String, logEffects verbose log = lines.map .printErr :=
  ⟨_, logEffects_eq verbose log⟩

/-- A plan to generate that does not fail has read its files and made a pass. -/
theorem exists_run_of_result
    (h : (planGenerate read verbose input output config noProperties noMethods).result = .ok ()) :
    ∃ c given out, load read Compilation.ofJsonText input = .ok c ∧
      loadOptions read config = .ok given ∧
      c.run (given.disable noMethods noProperties) (fun _ => false) = .ok out := by
  unfold planGenerate at h
  cases hload : load read Compilation.ofJsonText input with
  | error f => simp [hload, Plan.fail] at h
  | ok c =>
    cases hoptions : loadOptions read config with
    | error f => simp [hload, hoptions, Plan.fail] at h
    | ok given =>
      simp only [hload, hoptions, withPass, Plan.before] at h
      cases hrun : c.run (given.disable noMethods noProperties) fun _ => false with
      | error e => simp [hrun, Plan.fail] at h
      | ok out => exact ⟨c, given, out, rfl, rfl, hrun⟩

/-- The log of a run of `generate`: the settings, and the log of its pass. -/
def generateLog (c : Compilation) (o : Options) : List LogLine :=
  ⟨.debug, LogLine.passTarget, "generator options: " ++ o.logText⟩ :: c.log o fun _ => false

/-- What a run of `generate` prints on standard error for the output of its pass. -/
def generateLines (verbose : Bool) (c : Compilation) (o : Options) (out : Output) : List String :=
  logLines verbose (generateLog c o) ++ out.diagnostics.map Diagnostic.render

/-- A plan to generate whose pass gives an output prints those lines and goes on to the units. -/
theorem planGenerate_eq (verbose : Bool) (output : Option String) {c : Compilation}
    {given : Options} {out : Output}
    (hload : load read Compilation.ofJsonText input = .ok c)
    (hoptions : loadOptions read config = .ok given)
    (hrun : c.run (given.disable noMethods noProperties) (fun _ => false) = .ok out) :
    planGenerate read verbose input output config noProperties noMethods =
      { effects :=
          (generateLines verbose c (given.disable noMethods noProperties) out).map .printErr ++
            unitEffects output out.units } := by
  simp only [planGenerate, hload, hoptions, withPass, hrun, Plan.before, generateLines,
    generateLog, logEffects_eq]
  cases verbose <;> simp [logLines, Function.comp_def]

end Command

namespace FileTree

variable {t : FileTree} {args : List String} {verbose : Bool} {input directory : String}
  {output config : Option String} {noProperties noMethods : Bool}

/-- A run of `generate` prints its lines on standard error and then puts its units where they
belong. -/
theorem runCommandLine_eq_of_run {c : Compilation} {given : Options} {out : Output}
    (hargs : Invocation.ofArguments args =
      some ⟨verbose, .generate input output config noProperties noMethods⟩)
    (hload : Command.load t.read Compilation.ofJsonText input = .ok c)
    (hoptions : Command.loadOptions t.read config = .ok given)
    (hrun : c.run (given.disable noMethods noProperties) (fun _ => false) = .ok out) :
    t.runCommandLine args =
      Outcome.performAll
        { tree := t
          stderr := Outcome.printed
            (Command.generateLines verbose c (given.disable noMethods noProperties) out) }
        (.ok ()) (Command.unitEffects output out.units) := by
  simp only [runCommandLine, hargs, Invocation.plan,
    Command.planGenerate_eq verbose output hload hoptions hrun, Plan.carryOut,
    Outcome.performAll_printErr_append, Outcome.printed]

/-- Apart from lines on standard error, generating is writing the units of a pass. -/
theorem runCommandLine_of_run {c : Compilation} {given : Options} {out : Output}
    (hargs : Invocation.ofArguments args =
      some ⟨verbose, .generate input output config noProperties noMethods⟩)
    (hload : Command.load t.read Compilation.ofJsonText input = .ok c)
    (hoptions : Command.loadOptions t.read config = .ok given)
    (hrun : c.run (given.disable noMethods noProperties) (fun _ => false) = .ok out) :
    (t.runCommandLine args).Agrees
      (({ tree := t } : Outcome).performAll (.ok ()) (Command.unitEffects output out.units)) := by
  rw [runCommandLine_eq_of_run hargs hload hoptions hrun]
  have hprinted : ∀ stderr, Outcome.Agrees { tree := t, stderr := stderr } { tree := t } :=
    fun _ => ⟨rfl, rfl, rfl⟩
  exact (hprinted _).performAll _ _

/-- A run of `generate` that succeeds has written the units of a pass, in a tree that it has made
the directory in. -/
theorem written_of_runCommandLine
    (hargs : Invocation.ofArguments args =
      some ⟨verbose, .generate input (some directory) config noProperties noMethods⟩)
    (hexit : (t.runCommandLine args).exitCode = 0) :
    ∃ c given out made, Command.load t.read Compilation.ofJsonText input = .ok c ∧
      Command.loadOptions t.read config = .ok given ∧
      c.run (given.disable noMethods noProperties) (fun _ => false) = .ok out ∧
      Written directory out.units made (t.runCommandLine args).tree := by
  have hresult : (Command.planGenerate t.read verbose input (some directory) config noProperties
      noMethods).result = .ok () := by
    simp only [runCommandLine, hargs, Invocation.plan] at hexit
    exact (Outcome.foldlM_of_exitCode_eq_zero hexit).2
  obtain ⟨c, given, out, hload, hoptions, hrun⟩ := Command.exists_run_of_result hresult
  have houtcome := runCommandLine_of_run hargs hload hoptions hrun
  rw [houtcome.exitCode] at hexit
  rw [houtcome.tree]
  -- the directory is made, and then the units are written
  have hperformed := (Outcome.foldlM_of_exitCode_eq_zero hexit).1
  rw [Command.unitEffects_some, List.foldlM_cons, Option.bind_eq_bind,
    Option.bind_eq_some_iff] at hperformed
  obtain ⟨made, -, hwritten⟩ := hperformed
  exact ⟨c, given, out, made.tree, hload, hoptions, hrun, Outcome.written hwritten⟩

/-- **Every generated unit is on disk, unless a later one has its hint name.**  After a run of
`generate` that succeeds, the file of each hint name holds the text of the last unit of that name.
Where the hint names are distinct, each unit has a file of its own that holds exactly its text. -/
theorem read_generated
    (hargs : Invocation.ofArguments args =
      some ⟨verbose, .generate input (some directory) config noProperties noMethods⟩)
    (hexit : (t.runCommandLine args).exitCode = 0) :
    ∃ c given out, Command.load t.read Compilation.ofJsonText input = .ok c ∧
      Command.loadOptions t.read config = .ok given ∧
      c.run (given.disable noMethods noProperties) (fun _ => false) = .ok out ∧
      ((∀ u ∈ out.units, '/' ∉ u.hintName.toList) →
        (∀ before u after, out.units = before ++ u :: after →
          (∀ v ∈ after, v.hintName ≠ u.hintName) →
          (t.runCommandLine args).tree.read (Path.join directory u.hintName) = some u.text) ∧
        ((out.units.map SourceUnit.hintName).Nodup →
          (∀ u ∈ out.units,
            (t.runCommandLine args).tree.read (Path.join directory u.hintName) = some u.text) ∧
          (out.units.map fun u =>
            (t.runCommandLine args).tree.locate (Path.join directory u.hintName)).Nodup)) := by
  obtain ⟨c, given, out, made, hload, hoptions, hrun, hwritten⟩ :=
    written_of_runCommandLine hargs hexit
  refine ⟨c, given, out, hload, hoptions, hrun, fun hplain => ⟨?_, fun hnodup => ⟨?_, ?_⟩⟩⟩
  · intro before u after hsplit hafter
    exact hwritten.read_last hplain hsplit hafter
  · intro u hu
    exact hwritten.read_of_nodup hplain hnodup hu
  · exact hwritten.nodup_places hplain hnodup

/-- A file with the text of a compilation is loaded as that compilation. -/
theorem load_toJsonText {path : String} {c : Compilation}
    (h : t.read path = some c.toJsonText) :
    Command.load t.read Compilation.ofJsonText path = .ok c := by
  have hdecode : Compilation.ofJsonText c.toJsonText = .ok c :=
    decodeText_of_ofText Compilation.readsBack (Json.ofText_compact c.isReadable_toJson)
  simp only [Command.load, h, hdecode]

/-- Two types of different names, each with a file of its own. -/
theorem read_generated_two :
    let c : Compilation :=
      { enums :=
          [.resolved { name := "E", fullName := "E", accessibility := .public
                       members := [{ name := "A" }] },
           .resolved { name := "F", fullName := "F", accessibility := .public
                       members := [{ name := "B" }] }] }
    let t : FileTree := { files := [(["c.json"], some c.toJsonText)] }
    let tree := (t.runCommandLine ["generate", "-i", "c.json", "-o", "out"]).tree
    ∃ out, c.run {} (fun _ => false) = .ok out ∧
      out.units.map SourceUnit.hintName = ["EExtensions.g.cs", "FExtensions.g.cs"] ∧
      (∀ u ∈ out.units, tree.read (Path.join "out" u.hintName) = some u.text) ∧
      (out.units.map fun u => tree.locate (Path.join "out" u.hintName)).Nodup := by
  intro c t tree
  have hargs : Invocation.ofArguments ["generate", "-i", "c.json", "-o", "out"] =
      some ⟨false, .generate "c.json" (some "out") none false false⟩ := by decide +kernel
  have hload : Command.load t.read Compilation.ofJsonText "c.json" = .ok c := load_toJsonText rfl
  obtain ⟨out, hrun, hnames, hwrites⟩ : ∃ out, c.run {} (fun _ => false) = .ok out ∧
      out.units.map SourceUnit.hintName = ["EExtensions.g.cs", "FExtensions.g.cs"] ∧
      (({ tree := t } : Outcome).performAll (.ok ())
        (Command.unitEffects (some "out") out.units)).exitCode = 0 :=
    ⟨_, rfl, by decide +kernel, by decide +kernel⟩
  have hexit : (t.runCommandLine ["generate", "-i", "c.json", "-o", "out"]).exitCode = 0 :=
    (runCommandLine_of_run hargs hload rfl hrun).exitCode.trans hwrites
  obtain ⟨c', given, out', hload', hoptions, hrun', hgenerated⟩ := read_generated hargs hexit
  obtain rfl : c = c' := Except.ok.inj (hload.symm.trans hload')
  obtain rfl : {} = given := Except.ok.inj hoptions
  obtain rfl : out = out' := Except.ok.inj (hrun.symm.trans hrun')
  have hplain : ∀ name ∈ out.units.map SourceUnit.hintName, '/' ∉ name.toList := by
    rw [hnames]
    decide +kernel
  have hdistinct : (out.units.map SourceUnit.hintName).Nodup := by
    rw [hnames]
    decide
  have hunits := (hgenerated fun u hu => hplain _ (List.mem_map_of_mem hu)).2 hdistinct
  exact ⟨out, hrun, hnames, hunits.1, hunits.2⟩

/-- Two types of one simple name in different namespaces: their full names are distinct, but the
file holds the text of the second only. -/
theorem read_generated_overwritten :
    let c : Compilation :=
      { enums :=
          [.resolved { name := "E", scope := "N1", fullName := "N1.E", accessibility := .public
                       members := [{ name := "A" }] },
           .resolved { name := "E", scope := "N2", fullName := "N2.E", accessibility := .public
                       members := [{ name := "B" }] }] }
    let t : FileTree := { files := [(["c.json"], some c.toJsonText)] }
    let args := ["generate", "-i", "c.json", "-o", "out"]
    ((c.enums.filterMap Declaration.symbol).map EnumType.fullName).Nodup ∧
      (t.runCommandLine args).exitCode = 0 ∧
      ∃ out, c.run {} (fun _ => false) = .ok out ∧
        (∀ u ∈ out.units, '/' ∉ u.hintName.toList) ∧
        ∃ u ∈ out.units,
          (t.runCommandLine args).tree.read (Path.join "out" u.hintName) ≠ some u.text := by
  intro c t args
  have hargs : Invocation.ofArguments args =
      some ⟨false, .generate "c.json" (some "out") none false false⟩ := by decide +kernel
  have hload : Command.load t.read Compilation.ofJsonText "c.json" = .ok c := load_toJsonText rfl
  obtain ⟨out, u, v, hrun, hunits, hu, hv, htext, hwrites⟩ : ∃ out u v,
      c.run {} (fun _ => false) = .ok out ∧ out.units = [u, v] ∧
      u.hintName = "EExtensions.g.cs" ∧ v.hintName = "EExtensions.g.cs" ∧ v.text ≠ u.text ∧
      (({ tree := t } : Outcome).performAll (.ok ())
        (Command.unitEffects (some "out") out.units)).exitCode = 0 :=
    ⟨_, _, _, rfl, rfl, by decide +kernel, by decide +kernel, by decide +kernel, by decide +kernel⟩
  have hexit : (t.runCommandLine args).exitCode = 0 :=
    (runCommandLine_of_run hargs hload rfl hrun).exitCode.trans hwrites
  have hplain : ∀ w ∈ out.units, '/' ∉ w.hintName.toList := by
    rw [hunits]
    simp only [List.forall_mem_cons, hu, hv]
    decide +kernel
  obtain ⟨c', given, out', made, hload', hoptions, hrun', hwritten⟩ :=
    written_of_runCommandLine hargs hexit
  obtain rfl : c = c' := Except.ok.inj (hload.symm.trans hload')
  obtain rfl : {} = given := Except.ok.inj hoptions
  obtain rfl : out = out' := Except.ok.inj (hrun.symm.trans hrun')
  refine ⟨by decide, hexit, out, hrun, hplain, u, by simp [hunits], ?_⟩
  -- the second unit is the last of the name that both have
  have hsplit : out.units = [u] ++ v :: [] := hunits
  have hread : (t.runCommandLine args).tree.read (v.path "out") = some v.text :=
    hwritten.read_last hplain hsplit (List.forall_mem_nil _)
  rw [SourceUnit.path, hv, ← hu] at hread
  rw [hread, ne_eq, Option.some.injEq]
  exact htext

end FileTree

end EnumAccessors

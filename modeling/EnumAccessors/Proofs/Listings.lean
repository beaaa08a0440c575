import EnumAccessors.Proofs.Configuration
import EnumAccessors.Proofs.RoundTrip

/-!
# Listings of diagnostics

The diagnostics of a pass are shown in three ways: `check` lists them on standard output, line by
line or as JSON, and `generate` prints the same lines on standard error, whatever configuration it
is given.

* `Diagnostic.Entry` is what the JSON listing holds for a diagnostic, which can be read from it
  (`Diagnostic.Entry.listOfJsonText_printed`) and shown on a line like the diagnostic itself.
* `FileTree.runCommandLine_check` and `FileTree.stderr_runCommandLine_generate`: what the runs print
  and how they end.
* `FileTree.exists_listing`: all listings of one input show the same, and a check fails exactly if
  there are errors among them (`FileTree.Listing`).

Standard error is told up to the time stamps of the log and the details of a file that cannot be
written (`LogLine.render`, `Failure.render`).  A directory outside of the working directory counts
as one that cannot be written (`FileTree.relativeParts`).
-/

namespace EnumAccessors

open Json (Decoder Field RecordFormat IsReadable)

/-! ### Entries -/

namespace Diagnostic

/-- What the JSON listing holds for a diagnostic. -/
structure Entry where
  id : String
  severity : String
  message : String
  location : Option Location
  args : List String
  deriving DecidableEq

/-- The entry for a diagnostic. -/
def entry (d : Diagnostic) : Entry where
  id := d.kind.id
  severity := d.severity.name
  message := d.message
  location := d.location
  args := d.args

namespace Entry

/-- How an entry is read. -/
def format : RecordFormat Entry where
  title := "an entry"
  blank := ⟨"", "", "", none, []⟩
  fields :=
    [.needed "id" Decoder.text fun v r => { r with id := v },
     .needed "severity" Decoder.text fun v r => { r with severity := v },
     .needed "message" Decoder.text fun v r => { r with message := v },
     .needed "location" (Decoder.optional Location.format.decode)
       fun v r => { r with location := v },
     .needed "args" (Decoder.list Decoder.text) fun v r => { r with args := v }]

/-- How an entry is written. -/
def toJson (x : Entry) : Json :=
  .object [("id", .text x.id), ("severity", .text x.severity), ("message", .text x.message),
    ("location", (x.location.map Location.toJson).getD .null),
    ("args", .array (x.args.map .text))]

/-- The entries of a JSON listing. -/
def listOfJsonText (text : String) : Json.Decoded (List Entry) :=
  Json.decodeText (Decoder.list format.decode) text

/-- The entry on one line. -/
def line (x : Entry) : String :=
  let place :=
    match x.location with
    | some l => l.render ++ ": "
    | none => ""
  place ++ x.severity ++ " " ++ x.id ++ ": " ++ x.message

/-- The number of entries that are errors. -/
def errorCount (xs : List Entry) : Nat := xs.countP fun x => x.severity = "error"

/-- The line behind the lines of all entries. -/
def summary (xs : List Entry) : String :=
  toString xs.length ++ " diagnostic(s), " ++ toString (errorCount xs) ++ " error(s)"

theorem map_line_entry (ds : List Diagnostic) : (ds.map entry).map line = ds.map render :=
  List.map_map

theorem map_toJson_entry (ds : List Diagnostic) :
    (ds.map entry).map toJson = ds.map Diagnostic.toJson :=
  List.map_map

theorem errorCount_map_entry (ds : List Diagnostic) :
    errorCount (ds.map entry) = (ds.filter isError).length := by
  rw [errorCount, List.countP_map, List.countP_eq_length_filter]
  refine congrArg List.length (List.filter_congr fun d _ => ?_)
  cases h : d.severity <;> simp [entry, isError, Severity.name, h]

/-- The place that an entry may have is read back from null too. -/
theorem readsBack_location : (Decoder.optional Location.format.decode).ReadsBack
    fun location => (location.map Location.toJson).getD .null := by
  intro location
  cases location with
  | none => rfl
  | some l => exact Location.readsBack.optional l.outline_toJson_ne_null

theorem readsBack : format.decode.ReadsBack toJson := by
  intro x
  have hid := format.reads_nil.given "id" Decoder.readsBack_text x.id rfl
  have hseverity := hid.given "severity" Decoder.readsBack_text x.severity rfl
  have hmessage := hseverity.given "message" Decoder.readsBack_text x.message rfl
  have hlocation := hmessage.given "location" readsBack_location x.location rfl
  have hargs := hlocation.given "args" Decoder.readsBack_text.list x.args rfl
  exact format.decode_object (by decide) hargs (by simp [format, Field.needed])

theorem isReadable_toJson (x : Entry) (room : Nat) : IsReadable (room + 2) x.toJson := by
  refine .object ?_
  simp only [List.forall_mem_cons]
  refine ⟨.text _, .text _, .text _, ?_, isReadable_list .text _, List.forall_mem_nil _⟩
  cases x.location with
  | none => exact .null
  | some l => exact l.isReadable_toJson room

/-- **The JSON listing is read back** as the entries of its diagnostics, the end of the line
included. -/
theorem listOfJsonText_printed (ds : List Diagnostic) :
    listOfJsonText (Outcome.printed [listToJsonText ds]) = .ok (ds.map entry) := by
  have hreadable : IsReadable Json.Outline.maxDepth (.array ((ds.map entry).map toJson)) :=
    isReadable_list (fun x => x.isReadable_toJson 124) _
  rw [listOfJsonText, Outcome.printed, List.foldl_cons, List.foldl_nil, String.empty_append,
    listToJsonText, ← map_toJson_entry]
  exact decodeText_of_ofText readsBack.list (Json.ofText_pretty_line hreadable)

end Entry

end Diagnostic

open Diagnostic (Entry)

/-! ### Runs -/

theorem Output.errorCount_eq_zero_iff {out : Output} :
    out.errorCount = 0 ↔ ¬ ∃ d ∈ out.diagnostics, d.severity = .error := by
  simp [errorCount, Diagnostic.isError]

namespace Command

/-- The plain listing holds the entries of the JSON listing and a summary of them. -/
theorem checkLines_false (out : Output) :
    checkLines false out = (out.diagnostics.map Diagnostic.entry).map Entry.line ++
      [Entry.summary (out.diagnostics.map Diagnostic.entry)] := by
  rw [Entry.summary, Entry.errorCount_map_entry, Entry.map_line_entry, List.length_map]
  rfl

theorem not_mem_unitEffects (output : Option String) (units : List SourceUnit) (line : String) :
    .printErr line ∉ unitEffects output units := by
  cases output <;> simp [unitEffects]

end Command

namespace FileTree

variable {t : FileTree} {args : List String} {verbose : Bool} {input : String} {c : Compilation}

/-- What a check prints and how it ends. -/
theorem runCommandLine_check {json : Bool}
    (hargs : Invocation.ofArguments args = some ⟨verbose, .check input json⟩)
    (hload : Command.load t.read Compilation.ofJsonText input = .ok c) :
    t.runCommandLine args =
      { exitCode := if (c.output {}).errorCount = 0 then 0 else 1
        stdout := Outcome.printed (Command.checkLines json (c.output {}))
        stderr := Outcome.printed (Command.logLines verbose (c.log {} fun _ => false) ++
          if (c.output {}).errorCount = 0 then []
          else [(Failure.diagnosticErrors (c.output {}).errorCount).render])
        tree := t } := by
  have hrun : c.run {} (fun _ => false) = .ok (c.output {}) :=
    Compilation.run_eq_ok (by decide) fun _ _ => rfl
  have hplan : Command.planCheck t.read verbose input json =
      { effects := (Command.logLines verbose (c.log {} fun _ => false)).map .printErr ++
          ((Command.checkLines json (c.output {})).map .printOut ++ [])
        result := if (c.output {}).errorCount = 0 then .ok ()
          else .error (.diagnosticErrors (c.output {}).errorCount) } := by
    simp only [Command.planCheck, hload, Command.withPass_of_run hrun, Command.logEffects_eq,
      Plan.before, List.append_nil]
  simp only [runCommandLine, hargs, Invocation.plan, hplan, Plan.carryOut,
    Outcome.performAll_printErr_append, Outcome.performAll_printOut_append, Outcome.performAll]
  by_cases hcount : (c.output {}).errorCount = 0
  · simp only [hcount, if_true, List.append_nil]
    rfl
  · simp only [hcount, if_false, Outcome.fail, Outcome.printed, List.foldl_append]
    rfl

/-- What a run of `generate` prints on standard error. -/
theorem stderr_runCommandLine_generate {output config : Option String}
    {noProperties noMethods : Bool} {given : Options}
    (hargs : Invocation.ofArguments args =
      some ⟨verbose, .generate input output config noProperties noMethods⟩)
    (hload : Command.load t.read Compilation.ofJsonText input = .ok c)
    (hoptions : Command.loadOptions t.read config = .ok given)
    (ho : (given.disable noMethods noProperties).fault? = none) :
    (t.runCommandLine args).stderr =
      Outcome.printed
        (Command.generateLines verbose c (given.disable noMethods noProperties) (c.output {}) ++
          if (t.runCommandLine args).exitCode = 0 then [] else [Failure.io.render]) := by
  have hrun : c.run (given.disable noMethods noProperties) (fun _ => false) =
      .ok (c.output (given.disable noMethods noProperties)) :=
    Compilation.run_eq_ok ho fun _ _ => rfl
  -- the configuration has no part in the diagnostics
  have hlines : Command.generateLines verbose c (given.disable noMethods noProperties)
      (c.output (given.disable noMethods noProperties)) =
        Command.generateLines verbose c (given.disable noMethods noProperties) (c.output {}) := by
    have hdefault : Options.fault? {} = none := by decide
    rw [Command.generateLines, (c.sameButTexts_output ho hdefault).diagnostics,
      Command.generateLines]
  rw [runCommandLine_eq_of_run hargs hload hoptions hrun, hlines,
    Outcome.stderr_performAll rfl (Command.not_mem_unitEffects output _)]
  split
  · rw [List.append_nil]
  · simp only [Outcome.printed, List.foldl_append, List.foldl_cons, List.foldl_nil]

/-- Printing the sources on standard output never fails. -/
theorem exitCode_runCommandLine_generate {config : Option String} {noProperties noMethods : Bool}
    {given : Options}
    (hargs : Invocation.ofArguments args =
      some ⟨verbose, .generate input none config noProperties noMethods⟩)
    (hload : Command.load t.read Compilation.ofJsonText input = .ok c)
    (hoptions : Command.loadOptions t.read config = .ok given)
    (ho : (given.disable noMethods noProperties).fault? = none) :
    (t.runCommandLine args).exitCode = 0 := by
  have hagrees := runCommandLine_of_run hargs hload hoptions
    (Compilation.run_eq_ok ho fun _ _ => rfl)
  have hprint : ∀ units : List SourceUnit, Command.unitEffects none units =
      (units.map fun u => "// " ++ u.hintName ++ "\n" ++ u.text).map .printOut := by
    simp [Command.unitEffects]
  rw [hprint, Outcome.performAll_printOut] at hagrees
  exact hagrees.exitCode

/-- The runs on one input show the diagnostics of one pass over it: `out` is the output of the pass,
and `entries` is what the JSON listing holds. -/
structure Listing (t : FileTree) (input : String) (c : Compilation) (out : Output)
    (entries : List Entry) : Prop where
  /-- There is an entry for each diagnostic, in their order … -/
  diagnostics : entries = out.diagnostics.map Diagnostic.entry
  /-- … and on a line it looks like the diagnostic. -/
  lines : entries.map Entry.line = out.diagnostics.map Diagnostic.render
  /-- The JSON listing is read as the entries. -/
  json : ∀ args verbose, Invocation.ofArguments args = some ⟨verbose, .check input true⟩ →
    Entry.listOfJsonText (t.runCommandLine args).stdout = .ok entries
  /-- The plain listing shows the same entries and sums them up. -/
  plain : ∀ args verbose, Invocation.ofArguments args = some ⟨verbose, .check input false⟩ →
    (t.runCommandLine args).stdout =
      Outcome.printed (entries.map Entry.line ++
        [toString entries.length ++ " diagnostic(s), " ++ toString (Entry.errorCount entries) ++
          " error(s)"])
  /-- In both forms a check fails exactly if there is an error … -/
  exitCode : ∀ args verbose json,
    Invocation.ofArguments args = some ⟨verbose, .check input json⟩ →
      (t.runCommandLine args).exitCode =
        if ∃ d ∈ out.diagnostics, d.severity = .error then 1 else 0
  /-- … and says how many there are.  Else there is nothing but its log on standard error. -/
  failure : ∀ args verbose json,
    Invocation.ofArguments args = some ⟨verbose, .check input json⟩ →
      (t.runCommandLine args).stderr =
        Outcome.printed (Command.logLines verbose (c.log {} fun _ => false) ++
          if (t.runCommandLine args).exitCode = 0 then []
          else ["Error: DiagnosticErrors(" ++ toString (Entry.errorCount entries) ++ ")"])
  /-- Whatever its configuration, as long as it makes sense, `generate` prints the lines of the
  entries on standard error, behind its log.  Only a file that it cannot write is reported
  there too. -/
  generate : ∀ args verbose output config noProperties noMethods given,
    Invocation.ofArguments args =
        some ⟨verbose, .generate input output config noProperties noMethods⟩ →
      Command.loadOptions t.read config = .ok given →
      (given.disable noMethods noProperties).fault? = none →
      (t.runCommandLine args).stderr =
        Outcome.printed (
          Command.logLines verbose
              (Command.generateLog c (given.disable noMethods noProperties)) ++
            entries.map Entry.line ++
            if (t.runCommandLine args).exitCode = 0 then [] else ["Error: Io"])

/-- **All listings agree.**  The file of a compilation can be checked, and whatever is shown of its
diagnostics is read off one list of entries. -/
theorem exists_listing (hload : Command.load t.read Compilation.ofJsonText input = .ok c) :
    ∃ out entries, c.run {} (fun _ => false) = .ok out ∧ t.Listing input c out entries := by
  have hlines := Entry.map_line_entry (c.output {}).diagnostics
  have hexit : ∀ args verbose json,
      Invocation.ofArguments args = some ⟨verbose, .check input json⟩ →
        ((t.runCommandLine args).exitCode = 0 ↔ (c.output {}).errorCount = 0) := by
    intro args verbose json hargs
    rw [runCommandLine_check hargs hload]
    by_cases hcount : (c.output {}).errorCount = 0 <;> simp [hcount]
  refine ⟨c.output {}, (c.output {}).diagnostics.map Diagnostic.entry,
    Compilation.run_eq_ok (by decide) fun _ _ => rfl, rfl, hlines, ?_, ?_, ?_, ?_, ?_⟩
  · intro args verbose hargs
    rw [runCommandLine_check hargs hload]
    exact Entry.listOfJsonText_printed _
  · intro args verbose hargs
    rw [runCommandLine_check hargs hload]
    exact congrArg Outcome.printed (Command.checkLines_false _)
  · intro args verbose json hargs
    rw [runCommandLine_check hargs hload]
    by_cases hcount : (c.output {}).errorCount = 0
    · rw [if_pos hcount, if_neg (Output.errorCount_eq_zero_iff.1 hcount)]
    · rw [if_neg hcount, if_pos (Classical.not_not.1 (mt Output.errorCount_eq_zero_iff.2 hcount))]
  · intro args verbose json hargs
    have hfailed : (Failure.diagnosticErrors (c.output {}).errorCount).render =
        "Error: DiagnosticErrors(" ++
          toString (Entry.errorCount ((c.output {}).diagnostics.map Diagnostic.entry)) ++ ")" := by
      rw [Entry.errorCount_map_entry]
      rfl
    simp only [hexit args verbose json hargs, ← hfailed]
    rw [runCommandLine_check hargs hload]
  · intro args verbose output config noProperties noMethods given hargs hoptions ho
    rw [hlines]
    exact stderr_runCommandLine_generate hargs hload hoptions ho

/-- An error that quotes what was written, a warning without a place, and methods switched off. -/
theorem exists_listing_mixed :
    let c : Compilation :=
      { enums :=
          [.resolved
            { name := "E", fullName := "E", accessibility := .public
              accessorPrefix := some { args := [.text "a\"\n"], location := some ⟨"e.cs", 3, 7⟩ }
              members := [{ name := "A" }] }] }
    let t : FileTree := { files := [(["c.json"], some c.toJsonText)] }
    Command.load t.read Compilation.ofJsonText "c.json" = .ok c ∧
      ∃ entries, entries.map Entry.severity = ["error", "warning"] ∧
        Entry.listOfJsonText (t.runCommandLine ["check", "-i", "c.json", "--json"]).stdout =
          .ok entries ∧
        (t.runCommandLine ["check", "-i", "c.json"]).stdout =
          Outcome.printed (entries.map Entry.line ++ ["2 diagnostic(s), 1 error(s)"]) ∧
        (∀ args ∈ [["check", "-i", "c.json"], ["check", "-i", "c.json", "--json"]],
          (t.runCommandLine args).exitCode = 1 ∧
            (t.runCommandLine args).stderr = "Error: DiagnosticErrors(1)\n") ∧
        (t.runCommandLine ["generate", "-i", "c.json", "--no-methods"]).exitCode = 0 ∧
        (t.runCommandLine ["generate", "-i", "c.json", "--no-methods"]).stderr =
          Outcome.printed (entries.map Entry.line) := by
  intro c t
  have hload : Command.load t.read Compilation.ofJsonText "c.json" = .ok c := load_toJsonText rfl
  have hplain : Invocation.ofArguments ["check", "-i", "c.json"] =
      some ⟨false, .check "c.json" false⟩ := by decide +kernel
  have hjson : Invocation.ofArguments ["check", "-i", "c.json", "--json"] =
      some ⟨false, .check "c.json" true⟩ := by decide +kernel
  have hgenerate : Invocation.ofArguments ["generate", "-i", "c.json", "--no-methods"] =
      some ⟨false, .generate "c.json" none none false true⟩ := by decide +kernel
  have ho : (({} : Options).disable true false).fault? = none := by decide
  obtain ⟨out, entries, hrun, hlisting⟩ := exists_listing hload
  obtain ⟨-, -, rfl⟩ := Compilation.run_eq_ok_iff.1 hrun
  have herror : ∃ d ∈ (c.output {}).diagnostics, d.severity = .error := by decide +kernel
  have hseverities : (c.output {}).diagnostics.map (fun d => d.severity.name) =
      ["error", "warning"] := by decide +kernel
  have hentries : entries.map Entry.severity = ["error", "warning"] := by
    rw [hlisting.diagnostics, List.map_map]
    exact hseverities
  have hcount : Entry.errorCount entries = 1 := by
    have h := congrArg (List.countP fun severity => severity = "error") hentries
    rwa [List.countP_map] at h
  have hlength : entries.length = 2 := by simpa using congrArg List.length hentries
  have hexit : ∀ args json, Invocation.ofArguments args = some ⟨false, .check "c.json" json⟩ →
      (t.runCommandLine args).exitCode = 1 ∧
        (t.runCommandLine args).stderr = "Error: DiagnosticErrors(1)\n" := by
    intro args json hargs
    have hone : (t.runCommandLine args).exitCode = 1 := by
      rw [hlisting.exitCode args false json hargs, if_pos herror]
    refine ⟨hone, ?_⟩
    rw [hlisting.failure args false json hargs, hone, hcount]
    decide +kernel
  have hsummary : toString 2 ++ " diagnostic(s), " ++ toString 1 ++ " error(s)" =
      "2 diagnostic(s), 1 error(s)" := by decide +kernel
  have hzero := exitCode_runCommandLine_generate hgenerate hload rfl ho
  refine ⟨hload, entries, hentries, hlisting.json _ _ hjson, ?_, ?_, hzero, ?_⟩
  · rw [hlisting.plain _ _ hplain, hlength, hcount, hsummary]
  · simp only [List.forall_mem_cons]
    exact ⟨hexit _ _ hplain, hexit _ _ hjson, List.forall_mem_nil _⟩
  · rw [hlisting.generate _ _ _ _ _ _ _ hgenerate rfl ho, if_pos hzero, List.append_nil,
      Command.logLines, if_neg Bool.false_ne_true, List.nil_append]

end FileTree

end EnumAccessors

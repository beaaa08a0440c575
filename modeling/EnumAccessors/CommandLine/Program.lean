import EnumAccessors.CommandLine.Arguments
import EnumAccessors.CommandLine.Path
import EnumAccessors.Pass.Log

/-!
# The program

What the program does for an invocation, as a list of effects and a result (`Invocation.plan`).
It depends on nothing but the files that are read, so a plan can be made and looked at without
carrying it out.
-/

namespace EnumAccessors

/-- Why the program fails. -/
inductive Failure where
  /-- A file cannot be read or written. -/
  | io
  | json (error : Json.DecodeError)
  | pass (error : PassError)
  /-- The number of errors that were reported. -/
  | diagnosticErrors (count : Nat)
  deriving DecidableEq

/-- The last line of a run that fails.  What is said in brackets about a file or about JSON, in the
words of the operating system and of the JSON reader, is left out.  What is proved of standard error
is about lines without it. -/
def Failure.render : Failure → String
  | io => "Error: Io"
  | json _ => "Error: Json"
  | pass (.invalidConfig fault) => "Error: InvalidConfig(" ++ Text.quote fault.message ++ ")"
  | pass .cancelled => "Error: Cancelled"
  | diagnosticErrors count => "Error: DiagnosticErrors(" ++ toString count ++ ")"

/-- Something the program does. -/
inductive Effect where
  /-- A line on standard output. -/
  | printOut (line : String)
  /-- A line on standard error. -/
  | printErr (line : String)
  /-- A directory is made, and those it lies in, unless it is there. -/
  | makeDirectory (path : String)
  /-- A file is written over. -/
  | writeFile (path text : String)
  deriving DecidableEq

/-- Effects in their order, and what comes of them if none fails. -/
structure Plan where
  effects : List Effect := []
  result : Except Failure Unit := .ok ()

namespace Plan

/-- A plan that fails at once. -/
def fail (f : Failure) : Plan := { result := .error f }

/-- Effects before a plan. -/
def before (effects : List Effect) (p : Plan) : Plan := { p with effects := effects ++ p.effects }

end Plan

/-- How the log shows a configuration. -/
def Options.logText (o : Options) : String :=
  let bool (b : Bool) : String := if b then "true" else "false"
  let guard :=
    match o.propertyGuard with
    | none => "None"
    | some symbol => "Some(" ++ Text.quote symbol ++ ")"
  "GeneratorOptions \x7b methods: " ++ bool o.methods ++ ", properties: " ++ bool o.properties ++
    ", property_guard: " ++ guard ++ ", receiver: " ++ Text.quote o.receiver ++ " \x7d"

namespace Command

/-! ### Parts of plans -/

/-- The text of each file that can be read as one. -/
abbrev Reader := String → Option String

/-- The value in a JSON file. -/
def load {α : Type} (read : Reader) (decode : String → Json.Decoded α) (path : String) :
    Except Failure α :=
  match read path with
  | none => .error .io
  | some text =>
    match decode text with
    | .error e => .error (.json e)
    | .ok value => .ok value

/-- Lines of the log, if it is wanted. -/
def logEffects (verbose : Bool) (lines : List LogLine) : List Effect :=
  if verbose then lines.map fun l => .printErr l.render else []

/-- A pass that nobody cancels, with its log, and what is done with its output. -/
def withPass (verbose : Bool) (c : Compilation) (o : Options) (use : Output → Plan) : Plan :=
  Plan.before (logEffects verbose (c.log o fun _ => false)) <|
    match c.run o fun _ => false with
    | .error e => .fail (.pass e)
    | .ok out => use out

/-! ### The commands -/

/-- Where the sources of a pass go. -/
def unitEffects (output : Option String) (units : List SourceUnit) : List Effect :=
  match output with
  | none => units.map fun u => .printOut ("// " ++ u.hintName ++ "\n" ++ u.text)
  | some directory =>
    .makeDirectory directory ::
      units.flatMap fun u =>
        let path := Path.join directory u.hintName
        [.writeFile path u.text, .printOut ("Generated " ++ u.typeName ++ " → " ++ path)]

/-- The configuration in a file, or the default one. -/
def loadOptions (read : Reader) (config : Option String) : Except Failure Options :=
  match config with
  | none => .ok {}
  | some path => load read Options.ofJsonText path

/-- The sources of all types. -/
def planGenerate (read : Reader) (verbose : Bool) (input : String) (output config : Option String)
    (noProperties noMethods : Bool) : Plan :=
  match load read Compilation.ofJsonText input with
  | .error f => .fail f
  | .ok c =>
    match loadOptions read config with
    | .error f => .fail f
    | .ok given =>
      let o := given.disable noMethods noProperties
      let line : LogLine := ⟨.debug, LogLine.passTarget, "generator options: " ++ o.logText⟩
      Plan.before (logEffects verbose [line]) <|
        withPass verbose c o fun out =>
          { effects :=
              (out.diagnostics.map fun d => .printErr d.render) ++ unitEffects output out.units }

/-- The lines of a check. -/
def checkLines (json : Bool) (out : Output) : List String :=
  if json then [Diagnostic.listToJsonText out.diagnostics]
  else
    out.diagnostics.map Diagnostic.render ++
      [toString out.diagnostics.length ++ " diagnostic(s), " ++ toString out.errorCount ++
        " error(s)"]

/-- The diagnostics of all types; the check fails if there are errors among them. -/
def planCheck (read : Reader) (verbose : Bool) (input : String) (json : Bool) : Plan :=
  match load read Compilation.ofJsonText input with
  | .error f => .fail f
  | .ok c =>
    withPass verbose c {} fun out =>
      { effects := (checkLines json out).map .printOut
        result :=
          if out.errorCount = 0 then .ok () else .error (.diagnosticErrors out.errorCount) }

/-- The text with blanks behind it up to a width. -/
def padRight (width : Nat) (text : String) : String :=
  String.ofList (text.toList ++ List.replicate (width - text.length) ' ')

/-- The catalog lines of a kind of diagnostics. -/
def catalogLines (k : Diagnostic.Kind) : List String :=
  [padRight 16 k.id ++ " " ++ padRight 8 k.severity.name ++ " " ++ k.title,
   padRight 16 "" ++ " " ++ padRight 8 "" ++ " " ++ k.template]

/-- The lines about one diagnostic and its fixes. -/
def fixLines (r : Report) (e : EnumType) (d : Diagnostic) : List String :=
  (r.name ++ ": " ++ d.render) ::
    (d.fixes e).map fun edit => "  [" ++ edit.equivalenceKey ++ "] " ++ edit.title

/-- The lines about the unknown groups of a pass. -/
def fixListing (c : Compilation) (out : Output) : List String :=
  out.reports.flatMap fun r =>
    match Output.symbolOf c r with
    | none => []
    | some e =>
      (r.diagnostics.filter fun d => d.kind == .unknownGroup).flatMap (fixLines r e)

/-- The fixes for unknown groups. -/
def planFixes (read : Reader) (verbose : Bool) (input : String) : Plan :=
  match load read Compilation.ofJsonText input with
  | .error f => .fail f
  | .ok c => withPass verbose c {} fun out => { effects := (fixListing c out).map .printOut }

/-- The files that a command reads. -/
def inputs : Command → List String
  | generate input _ config _ _ => input :: config.toList
  | check input _ => [input]
  | catalog => []
  | fixes input => [input]

end Command

/-- What the program does for an invocation. -/
def Invocation.plan (i : Invocation) (read : Command.Reader) : Plan :=
  match i.command with
  | .generate input output config noProperties noMethods =>
    Command.planGenerate read i.verbose input output config noProperties noMethods
  | .check input json => Command.planCheck read i.verbose input json
  | .catalog => { effects := (Diagnostic.Kind.all.flatMap Command.catalogLines).map .printOut }
  | .fixes input => Command.planFixes read i.verbose input

end EnumAccessors

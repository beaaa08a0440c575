import EnumAccessors.Pass.Basic

/-!
# The log of a pass

The lines that a pass writes to its log (`Compilation.log`), one after another.  They say for each
declaration what became of it and end with a summary, or with the declaration before which the
pass was cancelled.

Names get into the log as they are, but for characters that a terminal would obey
(`LogLine.messageChar`).
-/

namespace EnumAccessors

/-- How much a line of the log matters. -/
inductive LogLevel where
  | debug
  | info
  deriving DecidableEq

/-- A line of the log, and the part of the program it comes from. -/
structure LogLine where
  level : LogLevel
  target : String
  message : String
  deriving DecidableEq

namespace LogLine

/-- The log of the pass as a whole. -/
def passTarget : String := "flagext"

/-- The log of the analysis. -/
def analysisTarget : String := "flagext_compiler::analyzer"

/-- The log of the groups. -/
def groupTarget : String := "flagext_compiler::groups"

/-- The log of the generator. -/
def generatorTarget : String := "flagext_compiler::generator"

/-- One character of a message: characters that a terminal would obey are replaced by their
codes. -/
def messageChar (c : Char) : List Char :=
  if c ∈ ['\x07', '\x08', '\x0c', '\x1b', '\x7f'] then
    ['\\', 'x'] ++ (if c.toNat < 16 then ['0'] else []) ++ Text.hexDigits c.toNat
  else if 0x80 ≤ c.toNat ∧ c.toNat ≤ 0x9F then Text.codeEscape c
  else [c]

/-- The line as it is written, without the time in front of it and the colours of a terminal.  What
is proved of standard error is about lines without them. -/
def render (l : LogLine) : String :=
  (match l.level with
    | .debug => "DEBUG "
    | .info => "INFO ") ++ l.target ++ ": " ++ String.ofList (l.message.toList.flatMap messageChar)

end LogLine

namespace GroupDeclaration

/-- The names that valid declarations repeat after those in `declared`. -/
def repeats (declared : List String) : List Attribute → List String
  | [] => []
  | a :: rest =>
    match (Check.identifier (some a) none .groupName).value with
    | none => repeats declared rest
    | some name =>
      if declared.contains name then name :: repeats declared rest
      else repeats (name :: declared) rest

end GroupDeclaration

/-- The lines about the source file of a type. -/
def Descriptor.log (d : Descriptor) (o : Options) : List LogLine :=
  let message :=
    match d.generate o with
    | none => "nothing to generate for " ++ d.fullName
    | some _ =>
      "generated " ++ toString d.accessors.length ++ " accessors for " ++ d.fullName
  [⟨.debug, LogLine.generatorTarget, message⟩]

/-- The lines about a type. -/
def EnumType.log (e : EnumType) (project : Option Naming) (o : Options) : List LogLine :=
  let skipping (reason : String) : List LogLine :=
    [⟨.debug, LogLine.analysisTarget, "skipping " ++ e.fullName ++ ": " ++ reason⟩]
  let analysis := e.analyze project
  match analysis.value with
  | none =>
    if e.accessibility.isEligible then skipping "excluded"
    else skipping (e.accessibility.title ++ " is not generation-eligible")
  | some d =>
    (GroupDeclaration.repeats [] e.groups).map (fun name =>
      ⟨.debug, LogLine.groupTarget, "ignoring repeated declaration of group " ++ name⟩) ++
    [⟨.debug, LogLine.analysisTarget,
      "analyzed " ++ e.fullName ++ ": " ++ toString d.flags.length ++ " members, " ++
        toString d.groups.length ++ " groups, " ++ toString analysis.diagnostics.length ++
        " diagnostics"⟩] ++
    d.log o

/-- The lines about declarations, the first of which has the place `index`. -/
def Declaration.logAll (cancelled : Nat → Bool) (project : Option Naming) (o : Options)
    (index : Nat) : List Declaration → List LogLine
  | [] => []
  | d :: rest =>
    if cancelled index then
      [⟨.debug, LogLine.passTarget, "pass cancelled before " ++ d.name⟩]
    else
      (d.symbol.map fun e => e.log project o).getD [] ++
        logAll cancelled project o (index + 1) rest

/-- The line that sums up a pass. -/
def Output.log (out : Output) (c : Compilation) : LogLine :=
  ⟨.info, LogLine.passTarget,
    "pass complete: " ++ toString c.enums.length ++ " type(s), " ++
      toString out.units.length ++ " unit(s), " ++ toString out.diagnostics.length ++
      " diagnostic(s)"⟩

/-- The lines of a pass. -/
def Compilation.log (c : Compilation) (o : Options) (cancelled : Nat → Bool) : List LogLine :=
  match o.fault? with
  | some _ => []
  | none =>
    Declaration.logAll cancelled (Check.projectNaming c.naming).value o 0 c.enums ++
      match c.run o cancelled with
      | .error _ => []
      | .ok out => [out.log c]

end EnumAccessors

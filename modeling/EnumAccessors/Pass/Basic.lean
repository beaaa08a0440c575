import EnumAccessors.Accessor.SourceUnit
import EnumAccessors.Edit

/-!
# Passes

A pass analyzes every declaration of a compilation and generates the sources of those that get
any (`Compilation.run`).  Before each declaration it asks whether it has been cancelled; a
cancelled pass gives nothing at all, and a declaration that has been started is always finished.

The answers to these questions are a function from the number of the question, so that a
cancellation may arrive at any time.
-/

namespace EnumAccessors

/-- The diagnostics of one declaration. -/
structure Report where
  /-- The place of the declaration in the compilation. -/
  index : Nat
  name : String
  diagnostics : List Diagnostic
  deriving DecidableEq

/-- What a pass gives: the sources in the order of the declarations, the diagnostics of the
project followed by those of the declarations, and the latter once more for each declaration that
has any. -/
structure Output where
  units : List SourceUnit := []
  diagnostics : List Diagnostic := []
  reports : List Report := []
  deriving DecidableEq

/-- Why a pass gives nothing. -/
inductive PassError where
  | invalidConfig (fault : ConfigFault)
  | cancelled
  deriving DecidableEq

/-- The wording of a refusal. -/
def PassError.message : PassError → String
  | invalidConfig fault => "Invalid configuration: " ++ fault.message
  | cancelled => "Generation pass was cancelled"

namespace Output

/-- The number of errors among the diagnostics. -/
def errorCount (out : Output) : Nat := (out.diagnostics.filter Diagnostic.isError).length

/-- The output after one more declaration. -/
def extend (out : Output) (o : Options) (project : Option Naming) (index : Nat)
    (d : Declaration) : Output :=
  let analysis := d.analyze project
  let unit := analysis.value.bind fun descriptor => descriptor.generate o
  { units := out.units ++ unit.toList
    diagnostics := out.diagnostics ++ analysis.diagnostics
    reports :=
      if analysis.diagnostics.isEmpty then out.reports
      else out.reports ++ [⟨index, d.name, analysis.diagnostics⟩] }

/-- The output after further declarations, the first of which has the place `index`. -/
def extendAll (cancelled : Nat → Bool) (o : Options) (project : Option Naming) (index : Nat)
    (out : Output) : List Declaration → Except PassError Output
  | [] => .ok out
  | d :: rest =>
    if cancelled index then .error .cancelled
    else extendAll cancelled o project (index + 1) (out.extend o project index d) rest

/-- The type that a report is about. -/
def symbolOf (c : Compilation) (r : Report) : Option EnumType :=
  c.enums[r.index]?.bind Declaration.symbol

/-- The fixes for the diagnostics of each type, offered against that type. -/
def fixes (out : Output) (c : Compilation) : List (Diagnostic × Edit) :=
  out.reports.flatMap fun r =>
    match symbolOf c r with
    | none => []
    | some e => r.diagnostics.flatMap fun d => (d.fixes e).map fun edit => (d, edit)

end Output

/-- The pass over a compilation.  `cancelled i` answers the question before the declaration at
place `i`. -/
def Compilation.run (c : Compilation) (o : Options) (cancelled : Nat → Bool) :
    Except PassError Output :=
  match o.fault? with
  | some fault => .error (.invalidConfig fault)
  | none =>
    let project := Check.projectNaming c.naming
    Output.extendAll cancelled o project.value 0 { diagnostics := project.diagnostics } c.enums

end EnumAccessors

import EnumAccessors.Diagnostic.Kind
import EnumAccessors.Json.Value
import EnumAccessors.Metadata.Format
import EnumAccessors.Text.Replace

/-!
# Diagnostics

A diagnostic is a kind, a place if one is known, and the arguments of its message
(`Diagnostic`).  It is shown on one line (`Diagnostic.render`) or written as JSON
(`Diagnostic.toJson`).
-/

namespace EnumAccessors

/-- A recorded problem.  It never stops the analysis. -/
structure Diagnostic where
  kind : Diagnostic.Kind
  location : Option Location := none
  args : List String := []
  deriving DecidableEq

namespace Diagnostic

/-- The severity.  A diagnostic is raised with the severity of its kind and keeps it, so there is no
field for it. -/
def severity (d : Diagnostic) : Severity := d.kind.severity

/-- Whether the diagnostic is an error. -/
def isError (d : Diagnostic) : Bool := d.severity == .error

/-- The diagnostic with one more argument. -/
def withArg (d : Diagnostic) (arg : String) : Diagnostic := { d with args := d.args ++ [arg] }

/-! ### Messages -/

/-- What stands in a template for the argument at a place. -/
def slot (index : Nat) : List Char := '\x7b' :: (toString index).toList ++ ['\x7d']

/-- A text with the slots filled from `index` on, one argument after the other.  A slot that an
argument brings along is filled by a later argument. -/
def fillFrom (index : Nat) (cs : List Char) : List String → List Char
  | [] => cs
  | arg :: rest => fillFrom (index + 1) (Text.replace (slot index) arg.toList cs) rest

/-- The template of the kind with its slots filled. -/
def message (d : Diagnostic) : String :=
  String.ofList (fillFrom 0 d.kind.template.toList d.args)

/-- The diagnostic on one line. -/
def render (d : Diagnostic) : String :=
  let place :=
    match d.location with
    | some l => l.render ++ ": "
    | none => ""
  place ++ d.severity.name ++ " " ++ d.kind.id ++ ": " ++ d.message

/-! ### JSON -/

/-- How a diagnostic is written. -/
def toJson (d : Diagnostic) : Json :=
  .object [("id", .text d.kind.id), ("severity", .text d.severity.name),
    ("message", .text d.message), ("location", (d.location.map Location.toJson).getD .null),
    ("args", .array (d.args.map .text))]

/-- The JSON text of a list of diagnostics, over several lines. -/
def listToJsonText (ds : List Diagnostic) : String := (Json.array (ds.map toJson)).pretty

end Diagnostic

end EnumAccessors

import EnumAccessors.Accessor.Options
import EnumAccessors.Accessor.Render
import EnumAccessors.Analysis.Describe

/-!
# Generated sources

The source file with the accessors of one type (`Descriptor.generate`).  There is none for a type
without accessors.
-/

namespace EnumAccessors

/-- A generated source file. -/
structure SourceUnit where
  /-- The file name to register the text under. -/
  hintName : String
  /-- The class that the file declares. -/
  typeName : String
  text : String
  deriving DecidableEq

namespace Descriptor

/-- What the lines say about the type. -/
def target (d : Descriptor) (o : Options) : Target where
  access := d.access
  fullName := d.fullName
  receiver := o.receiver
  isFlags := d.isFlags

/-- The lines before the class. -/
def headerLines (d : Descriptor) : List String :=
  ["// <auto-generated/>",
   "",
   "using System.Diagnostics.Contracts;",
   "using System.Runtime.CompilerServices;",
   ""] ++
  (if d.scope = "" then [] else ["namespace " ++ d.scope ++ ";", ""])

/-- The lines between the braces of the class. -/
def bodyLines (d : Descriptor) (o : Options) : List String :=
  (if o.methods then Accessor.methodLines (d.target o) d.accessors else []) ++
  (if o.properties then Accessor.propertyLines (d.target o) o.propertyGuard d.accessors else [])

/-- The lines of the file, the last of which is empty. -/
def lines (d : Descriptor) (o : Options) : List String :=
  d.headerLines ++ [d.access ++ " static partial class " ++ d.extensionName ++ " \x7b"] ++
    d.bodyLines o ++ ["\x7d", ""]

/-- The source file for a type; none if there is nothing to put into it. -/
def generate (d : Descriptor) (o : Options) : Option SourceUnit :=
  if d.accessors.isEmpty || (!o.methods && !o.properties) then none
  else
    some {
      hintName := d.extensionName ++ ".g.cs"
      typeName := d.extensionName
      text := String.intercalate "\n" (d.lines o) }

end Descriptor

/-- The source file for a type that has to be analyzed first. -/
def EnumType.generate (e : EnumType) (project : Option Naming) (o : Options) :
    Checked (Option SourceUnit) :=
  (e.analyze project).map fun d => d.bind fun d => d.generate o

end EnumAccessors

import EnumAccessors.CommandLine.FileTree

/-!
# A demonstration

Three sample types go through a pass: one of independent bits, one with groups and a reference to
a group that nobody declares, and a discrete one with names in another casing.  The demonstration
shows the sources, the diagnostics and the fixes (`Demo.plan`).
-/

namespace EnumAccessors

namespace Demo

/-! ### The sample types -/

/-- The namespace of the samples. -/
def scope : String := "HasFlagExtension.Sample"

/-- An attribute with texts for arguments and no place. -/
def words (args : List String) : Attribute := { args := args.map .text }

/-- A type of independent bits. -/
def flagEnum : EnumType where
  name := "FlagEnum"
  scope := scope
  fullName := "HasFlagExtension.Sample.FlagEnum"
  accessibility := .public
  isFlags := true
  accessorPrefix :=
    some { args := [.text "Allow"], location := some ⟨"Sample/FlagEnum.cs", 4, 2⟩ }
  naming := some (words ["PASCAL", "PASCAL"])
  members :=
    [{ name := "ELEMENT_A", displayName := some (words ["ElementA"]) },
     { name := "B", accessorPrefix := some (words ["Can"]) },
     { name := "C" }, { name := "D" }, { name := "E" },
     { name := "EXCLUDED", exclude := some .bare }]

/-- A discrete type with groups. -/
def groupedEnum : EnumType where
  name := "GroupedEnum"
  scope := scope
  fullName := "HasFlagExtension.Sample.GroupedEnum"
  accessibility := .public
  naming := some (words ["PASCAL", "PASCAL"])
  groups := [words ["Group1", "IsIn"], words ["Group2", "ContainedIn"]]
  members :=
    [{ name := "A", groups := [words ["Group1"]] },
     { name := "B", groups := [words ["Group1"]] },
     { name := "C", groups := [words ["Group1"], words ["Group2"]] },
     { name := "D", groups := [words ["Group2"]] },
     { name := "E"
       groups :=
        [words ["Group2"],
         { words ["Group3"] with location := some ⟨"Sample/GroupedEnum.cs", 18, 6⟩ }] }]

/-- A discrete type whose names are converted. -/
def direction : EnumType :=
  { EnumType.ofName "Direction" scope .internal with
    naming := some (words ["PASCAL", "SNAKE"])
    members :=
      [{ name := "NorthWest" }, { name := "SouthEast" },
       { name := "Unknown", exclude := some .bare }] }

/-- The samples. -/
def compilation : Compilation where
  enums :=
    [{ Declaration.resolved flagEnum with location := some ⟨"Sample/FlagEnum.cs", 6, 13⟩ },
     { Declaration.resolved groupedEnum with location := some ⟨"Sample/GroupedEnum.cs", 7, 13⟩ },
     .resolved direction]

/-! ### What is shown -/

/-- The lines about an output. -/
def linesOf (out : Output) : List String :=
  (out.units.flatMap fun u => ["==== " ++ u.hintName ++ " ====", u.text]) ++
    ["diagnostics = " ++ Diagnostic.listToJsonText out.diagnostics] ++
    (out.fixes compilation).flatMap fun (d, edit) =>
      ["fix for " ++ d.kind.id ++ ": " ++ edit.title, "  " ++ edit.toJson.compact]

/-- The plan of the demonstration. -/
def plan : Plan :=
  match compilation.run {} fun _ => false with
  | .error e => .fail (.pass e)
  | .ok out => { effects := (linesOf out).map .printOut }

end Demo

end EnumAccessors

import EnumAccessors.Json.Decode
import EnumAccessors.Json.Value
import EnumAccessors.Metadata.EnumType

/-!
# The JSON form of metadata

Compilations and what they consist of are read from JSON (`Compilation.ofJsonText`) and written to
it (`Compilation.toJson`).  What is absent is not written, with two exceptions: the list of
declarations and of members is written when it is empty, and the symbol of an unresolved
declaration as null.
-/

namespace EnumAccessors

open Json (Decoder Decoded Field RecordFormat)

/-! ### Reading -/

namespace Location

/-- How a place is read. -/
def format : RecordFormat Location where
  title := "struct Location"
  blank := ⟨"", 0, 0⟩
  fields :=
    [.needed "file" Decoder.text fun v r => { r with file := v },
     .needed "line" Decoder.count fun v r => { r with line := v },
     .needed "column" Decoder.count fun v r => { r with column := v }]

end Location

namespace Argument

/-- The least argument that is an integer. -/
def minInt : Int := -Int.pow 2 63

/-- The greatest argument that is an integer. -/
def maxInt : Int := Int.pow 2 63 - 1

/-- How an argument is read.  A value of another kind has to be read to its end before it can be
refused. -/
def decode : Decoder Argument := fun o => do
  Json.failIfSome (o.fault? true)
  match o with
  | .null => return .null
  | .bool b => return .bool b
  | .text s => return .text s
  | .number (.int n) =>
    if minInt ≤ n ∧ n ≤ maxInt then return .int (Int64.ofInt n)
    else .error (.noVariant "RawValue")
  | _ => .error (.noVariant "RawValue")

end Argument

namespace Attribute

/-- How an attribute is read. -/
def format : RecordFormat Attribute where
  title := "struct RawAttribute"
  blank := {}
  fields :=
    [.optional "args" (Decoder.list Argument.decode) fun v r => { r with args := v },
     .optional "location" (Decoder.optional Location.format.decode)
       fun v r => { r with location := v }]

/-- How an attribute is read that may be absent. -/
def decodeOptional : Decoder (Option Attribute) := Decoder.optional format.decode

/-- How a list of attributes is read. -/
def decodeList : Decoder (List Attribute) := Decoder.list format.decode

end Attribute

namespace Member

/-- How a member is read. -/
def format : RecordFormat Member where
  title := "struct RawMember"
  blank := { name := "" }
  fields :=
    [.needed "name" Decoder.text fun v r => { r with name := v },
     .optional "location" (Decoder.optional Location.format.decode)
       fun v r => { r with location := v },
     .optional "exclude" Attribute.decodeOptional fun v r => { r with exclude := v },
     .optional "displayName" Attribute.decodeOptional fun v r => { r with displayName := v },
     .optional "prefix" Attribute.decodeOptional fun v r => { r with accessorPrefix := v },
     .optional "groups" Attribute.decodeList fun v r => { r with groups := v }]

end Member

namespace EnumType

/-- How a type is read. -/
def format : RecordFormat EnumType where
  title := "struct RawEnum"
  blank := { name := "", fullName := "", accessibility := .public }
  fields :=
    [.needed "name" Decoder.text fun v r => { r with name := v },
     .optional "namespace" Decoder.text fun v r => { r with scope := v },
     .needed "fullName" Decoder.text fun v r => { r with fullName := v },
     .needed "accessibility" (Decoder.oneOf Accessibility.names)
       fun v r => { r with accessibility := v },
     .optional "isFlags" Decoder.bool fun v r => { r with isFlags := v },
     .optional "exclude" Attribute.decodeOptional fun v r => { r with exclude := v },
     .optional "prefix" Attribute.decodeOptional fun v r => { r with accessorPrefix := v },
     .optional "naming" Attribute.decodeOptional fun v r => { r with naming := v },
     .optional "groups" Attribute.decodeList fun v r => { r with groups := v },
     .optional "members" (Decoder.list Member.format.decode) fun v r => { r with members := v }]

end EnumType

namespace Declaration

/-- How a declaration is read. -/
def format : RecordFormat Declaration where
  title := "struct EnumDeclaration"
  blank := { name := "" }
  fields :=
    [.needed "name" Decoder.text fun v r => { r with name := v },
     .optional "location" (Decoder.optional Location.format.decode)
       fun v r => { r with location := v },
     .optional "symbol" (Decoder.optional EnumType.format.decode)
       fun v r => { r with symbol := v }]

end Declaration

namespace Compilation

/-- How a compilation is read. -/
def format : RecordFormat Compilation where
  title := "struct Compilation"
  blank := {}
  fields :=
    [.optional "naming" Attribute.decodeOptional fun v r => { r with naming := v },
     .optional "enums" (Decoder.list Declaration.format.decode) fun v r => { r with enums := v }]

/-- The compilation that a JSON text describes. -/
def ofJsonText (text : String) : Decoded Compilation := Json.decodeText format.decode text

end Compilation

/-! ### Writing -/

/-- The field of a value that may be absent. -/
def optionalField {α : Type} (name : String) (write : α → Json) :
    Option α → List (String × Json)
  | none => []
  | some value => [(name, write value)]

/-- The field of a list that is left out when it is empty. -/
def listField {α : Type} (name : String) (write : α → Json) : List α → List (String × Json)
  | [] => []
  | values => [(name, .array (values.map write))]

/-- How a place is written. -/
def Location.toJson (l : Location) : Json :=
  .object [("file", .text l.file), ("line", .int l.line.toNat), ("column", .int l.column.toNat)]

/-- How an argument is written. -/
def Argument.toJson : Argument → Json
  | bool value => .bool value
  | int value => .int value.toInt
  | text value => .text value
  | null => .null

/-- How an attribute is written. -/
def Attribute.toJson (a : Attribute) : Json :=
  .object (("args", .array (a.args.map Argument.toJson)) ::
    optionalField "location" Location.toJson a.location)

/-- How a member is written. -/
def Member.toJson (m : Member) : Json :=
  .object (("name", .text m.name) ::
    optionalField "location" Location.toJson m.location ++
    optionalField "exclude" Attribute.toJson m.exclude ++
    optionalField "displayName" Attribute.toJson m.displayName ++
    optionalField "prefix" Attribute.toJson m.accessorPrefix ++
    listField "groups" Attribute.toJson m.groups)

/-- How a type is written. -/
def EnumType.toJson (e : EnumType) : Json :=
  .object ([("name", .text e.name), ("namespace", .text e.scope), ("fullName", .text e.fullName),
      ("accessibility", .text e.accessibility.name), ("isFlags", .bool e.isFlags)] ++
    optionalField "exclude" Attribute.toJson e.exclude ++
    optionalField "prefix" Attribute.toJson e.accessorPrefix ++
    optionalField "naming" Attribute.toJson e.naming ++
    listField "groups" Attribute.toJson e.groups ++
    [("members", .array (e.members.map Member.toJson))])

/-- How a declaration is written. -/
def Declaration.toJson (d : Declaration) : Json :=
  .object (("name", .text d.name) ::
    optionalField "location" Location.toJson d.location ++
    [("symbol", (d.symbol.map EnumType.toJson).getD .null)])

/-- How a compilation is written. -/
def Compilation.toJson (c : Compilation) : Json :=
  .object (optionalField "naming" Attribute.toJson c.naming ++
    [("enums", .array (c.enums.map Declaration.toJson))])

/-- The JSON text of a compilation. -/
def Compilation.toJsonText (c : Compilation) : String := c.toJson.compact

end EnumAccessors

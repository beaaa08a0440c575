import EnumAccessors.Decimal.Shortest
import EnumAccessors.Json.Outline
import EnumAccessors.Text.Quoted

/-!
# Decoding values

A decoder reads an outline and gives a value or the first problem it meets (`DecodeError`).

A record (`RecordFormat`) is read from an object with named fields, in any order and among others
that are skipped, or from an array with the fields in the order of their declaration.  The problems
of an object are met in the order of the text, and missing fields after its closing bracket.
-/

namespace EnumAccessors

namespace Json

/-! ### Problems -/

/-- Why a text does not decode. -/
inductive DecodeError where
  /-- The text is not JSON. -/
  | text (fault : Fault)
  /-- A value of the wrong kind. -/
  | wrongKind (found expected : String)
  /-- An integer out of range. -/
  | wrongInteger (found : Int) (expected : String)
  /-- A record that is an array with too few items. -/
  | wrongLength (found : Nat) (record : String) (size : Nat)
  | missingField (name : String)
  | duplicateField (name : String)
  | unknownName (found : String) (known : List String)
  /-- A value that is none of the kinds of a union. -/
  | noVariant (union : String)
  deriving DecidableEq

/-- A name between the marks that messages put around names. -/
def codeSpan (name : String) : String := String.ofList ('\x60' :: name.toList ++ ['\x60'])

/-- The message of a problem with a value; problems with the text have none. -/
def DecodeError.message? : DecodeError → Option String
  | text _ => none
  | wrongKind found expected => some ("invalid type: " ++ found ++ ", expected " ++ expected)
  | wrongInteger found expected =>
    some ("invalid value: integer " ++ codeSpan (toString found) ++ ", expected " ++ expected)
  | wrongLength found record size =>
    some ("invalid length " ++ toString found ++ ", expected " ++ record ++ " with " ++
      toString size ++ " elements")
  | missingField name => some ("missing field " ++ codeSpan name)
  | duplicateField name => some ("duplicate field " ++ codeSpan name)
  | unknownName found known =>
    some ("unknown variant " ++ codeSpan found ++ ", expected one of " ++
      String.intercalate ", " (known.map codeSpan))
  | noVariant union => some ("data did not match any variant of untagged enum " ++ union)

/-- A result or the first problem. -/
abbrev Decoded (α : Type) := Except DecodeError α

/-- A way to read an outline. -/
abbrev Decoder (α : Type) := Outline → Decoded α

/-- The fault of a text as a problem. -/
def failIfSome : Option Fault → Decoded Unit
  | none => .ok ()
  | some fault => .error (.text fault)

/-- The problem of a value that is not of the kind a reader expects. -/
def Outline.unexpected (o : Outline) (expected : String) : DecodeError :=
  match o with
  | .null => .wrongKind "null" expected
  | .bool b => .wrongKind ("boolean " ++ codeSpan (if b then "true" else "false")) expected
  | .number (.int n) => .wrongKind ("integer " ++ codeSpan (toString n)) expected
  | .number (.double d) => .wrongKind ("floating point " ++ codeSpan d.render) expected
  | .text s => .wrongKind ("string " ++ Text.quote s) expected
  | .array _ _ => .wrongKind "sequence" expected
  | .object _ _ => .wrongKind "map" expected
  | .broken _ fault _ => .text fault
  | .ended => .text .ended

/-! ### Single values -/

namespace Decoder

/-- A truth value. -/
def bool : Decoder Bool
  | .bool b => .ok b
  | o => .error (o.unexpected "a boolean")

/-- A text. -/
def text : Decoder String
  | .text s => .ok s
  | o => .error (o.unexpected "a string")

/-- A natural number of 64 bits. -/
def count : Decoder UInt64
  | .number (.int n) =>
    if n < 0 then .error (.wrongInteger n "usize") else .ok (UInt64.ofNat n.toNat)
  | o => .error (o.unexpected "usize")

/-- The value of another decoder, or null for none. -/
def optional {α : Type} (d : Decoder α) : Decoder (Option α)
  | .null => .ok none
  | o => (d o).map some

/-- A list of values. -/
def list {α : Type} (d : Decoder α) : Decoder (List α)
  | .array items closing => do
    let values ← items.mapM d
    failIfSome closing.fault?
    return values
  | o => .error (o.unexpected "a sequence")

/-- One of the known names, as a text or as an object with that name for its only field and null
for its value. -/
def oneOf {α : Type} (known : List (String × α)) : Decoder α
  | .text name => choose name
  | .object [] closing => .error (.text (if closing = .ended then .ended else .malformed))
  | .object ((key, value) :: rest) closing => do
    let chosen ←
      match key with
      | .text name => choose name
      | o => .error (.text ((o.keyFault? true).getD .malformed))
    match value with
    | .null => pure ()
    | o => .error (o.unexpected "unit")
    if rest.isEmpty then failIfSome closing.fault? else .error (.text .malformed)
    return chosen
  | .broken '"' fault _ => .error (.text fault)
  | .ended => .error (.text .ended)
  | _ => .error (.text .malformed)
where
  /-- The value of a name. -/
  choose (name : String) : Decoded α :=
    match known.lookup name with
    | some value => .ok value
    | none => .error (.unknownName name (known.map (·.1)))

end Decoder

/-! ### Records -/

/-- A field of a record: its name, whether it has to be given, and how a value for it is read into
a record. -/
structure Field (ρ : Type) where
  name : String
  required : Bool
  read : Outline → ρ → Decoded ρ

/-- A field that has to be given. -/
def Field.needed {ρ α : Type} (name : String) (d : Decoder α) (set : α → ρ → ρ) : Field ρ :=
  ⟨name, true, fun o r => (d o).map (set · r)⟩

/-- A field that may be left out. -/
def Field.optional {ρ α : Type} (name : String) (d : Decoder α) (set : α → ρ → ρ) : Field ρ :=
  ⟨name, false, fun o r => (d o).map (set · r)⟩

/-- How a record is read: what messages call it, the record before any field is read, and its
fields in the order of their declaration. -/
structure RecordFormat (ρ : Type) where
  title : String
  blank : ρ
  fields : List (Field ρ)

namespace RecordFormat

variable {ρ : Type} (format : RecordFormat ρ)

/-- The fields of an object read into a record one after another.  `seen` holds the names of those
read before.  The result names the fields that were given. -/
def readFields (seen : List String) (record : ρ) :
    List (Outline × Outline) → Decoded (ρ × List String)
  | [] => .ok (record, seen)
  | (.text name, value) :: rest =>
    match format.fields.find? fun f => f.name == name with
    | none => do
      failIfSome (value.fault? false)
      readFields seen record rest
    | some f =>
      if seen.contains name then .error (.duplicateField name)
      else do
        let record ← f.read value record
        readFields (name :: seen) record rest
  | (key, _) :: _ => .error (.text ((key.keyFault? true).getD .malformed))

/-- The items of an array read into the fields of a record.  `index` counts the items read
before. -/
def readItems (closing : Closing) (index : Nat) (record : ρ) :
    List (Field ρ) → List Outline → Decoded ρ
  | _, [] => do
    failIfSome closing.fault?
    match (format.fields.drop index).findIdx? (·.required) with
    | some more => .error (.wrongLength (index + more) format.title format.fields.length)
    | none => return record
  | [], _ :: _ => .error (.text .malformed)
  | f :: fields, item :: items => do
    let record ← f.read item record
    readItems closing (index + 1) record fields items

/-- The decoder of a record. -/
def decode : Decoder ρ
  | .object fields closing => do
    let (record, seen) ← format.readFields [] format.blank fields
    failIfSome closing.fault?
    match format.fields.find? fun f => f.required && !seen.contains f.name with
    | some f => .error (.missingField f.name)
    | none => return record
  | .array items closing => format.readItems closing 0 format.blank format.fields items
  | o => .error (o.unexpected format.title)

end RecordFormat

/-! ### Whole texts -/

/-- A text that holds one value and nothing after it but blanks. -/
def decodeText {α : Type} (d : Decoder α) (text : String) : Decoded α := do
  let (outline, rest) := Outline.ofText text
  let value ← d outline
  if rest.isEmpty then return value else .error (.text .malformed)

end Json

end EnumAccessors

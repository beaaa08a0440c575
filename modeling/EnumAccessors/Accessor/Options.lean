import EnumAccessors.Identifier
import EnumAccessors.Json.Decode
import EnumAccessors.Json.Value

/-!
# Options of the generator

What is generated can be chosen (`Options`).  Each option has a default, so an object with some of
the fields is a complete configuration (`Options.ofJsonText`).  Not every configuration makes
sense (`Options.fault?`).
-/

namespace EnumAccessors

/-- What is generated, and how. -/
structure Options where
  /-- Whether there are extension methods. -/
  methods : Bool := true
  /-- Whether there is a block of extension properties. -/
  properties : Bool := true
  /-- The preprocessor symbol that the properties are wrapped in. -/
  propertyGuard : Option String := some "NET10_0_OR_GREATER"
  /-- The name of the receiver in generated code. -/
  receiver : String := "value"
  deriving DecidableEq

/-- Why a configuration makes no sense. -/
inductive ConfigFault where
  | nothingEnabled
  | badReceiver (name : String)
  | badGuard (name : String)
  deriving DecidableEq

/-- The wording of a fault. -/
def ConfigFault.message : ConfigFault → String
  | nothingEnabled => "methods and properties are both disabled"
  | badReceiver name => "receiver " ++ Text.quote name ++ " is not a valid identifier"
  | badGuard name => "property guard " ++ Text.quote name ++ " is not a valid identifier"

namespace Options

/-- The first fault of a configuration. -/
def fault? (o : Options) : Option ConfigFault :=
  if !o.methods && !o.properties then some .nothingEnabled
  else if !Identifier.isValid o.receiver then some (.badReceiver o.receiver)
  else
    match o.propertyGuard with
    | none => none
    | some guard => if Identifier.isValid guard then none else some (.badGuard guard)

/-- The configuration with outputs switched off further. -/
def disable (o : Options) (noMethods noProperties : Bool) : Options :=
  { o with methods := o.methods && !noMethods, properties := o.properties && !noProperties }

/-! ### JSON -/

open Json (Decoder Decoded RecordFormat)

/-- How a configuration is read. -/
def format : RecordFormat Options where
  title := "struct GeneratorOptions"
  blank := {}
  fields :=
    [.optional "methods" Decoder.bool fun v r => { r with methods := v },
     .optional "properties" Decoder.bool fun v r => { r with properties := v },
     .optional "propertyGuard" (Decoder.optional Decoder.text)
       fun v r => { r with propertyGuard := v },
     .optional "receiver" Decoder.text fun v r => { r with receiver := v }]

/-- The configuration that a JSON text describes. -/
def ofJsonText (text : String) : Decoded Options := Json.decodeText format.decode text

/-- How a configuration is written in full. -/
def toJson (o : Options) : Json :=
  .object [("methods", .bool o.methods), ("properties", .bool o.properties),
    ("propertyGuard", (o.propertyGuard.map .text).getD .null), ("receiver", .text o.receiver)]

end Options

end EnumAccessors

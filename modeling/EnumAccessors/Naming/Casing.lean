import EnumAccessors.Metadata.Attribute

/-!
# Casings

The conventions for writing a name of several words (`Casing`) and the preference of a type or a
project for converting names from one to another (`Naming`).

Names in kebab, spaced camel and train casing contain separators that no identifier may hold.  A
preference is supported (`Naming.isSupported`) if neither side is one of these or unknown.
-/

namespace EnumAccessors

/-- A convention for writing a name of several words. -/
inductive Casing where
  /-- `helloWorld` -/
  | camel
  /-- `HelloWorld` -/
  | pascal
  /-- `hello_world` -/
  | snake
  /-- `HELLO_WORLD` -/
  | screamingSnake
  /-- `hello-world` -/
  | kebab
  /-- `hello World` -/
  | spacedCamel
  /-- `Hello-World` -/
  | train
  /-- A casing nobody knows. -/
  | unknown
  deriving DecidableEq, Repr

namespace Casing

/-- All casings, the known ones by their ordinals. -/
def all : List Casing :=
  [camel, pascal, snake, screamingSnake, kebab, spacedCamel, train, unknown]

/-- The name of a casing in attributes and messages. -/
def name : Casing → String
  | camel => "CAMEL"
  | pascal => "PASCAL"
  | snake => "SNAKE"
  | screamingSnake => "SCREAMING_SNAKE"
  | kebab => "KEBAB"
  | spacedCamel => "SPACED_CAMEL"
  | train => "TRAIN"
  | unknown => "UNKNOWN"

/-- The casing of a name; letter case counts. -/
def ofName (text : String) : Casing :=
  (all.find? fun c => c.name == text).getD unknown

/-- The casing of an ordinal. -/
def ofOrdinal (ordinal : Int) : Casing :=
  if ordinal < 0 then unknown else all[ordinal.toNat]?.getD unknown

/-- The casing that an argument gives by its ordinal or by its name. -/
def ofArgument : Argument → Casing
  | .int value => ofOrdinal value.toInt
  | .text value => ofName value
  | _ => unknown

/-- Whether words in this casing join into a bare identifier. -/
def isIdentifierSafe : Casing → Bool
  | camel | pascal | snake | screamingSnake => true
  | kebab | spacedCamel | train | unknown => false

/-- What stands between two words. -/
def separator : Casing → List Char
  | snake | screamingSnake => ['_']
  | kebab | train => ['-']
  | spacedCamel => [' ']
  | camel | pascal | unknown => []

end Casing

/-- A preference for converting names in one casing to another. -/
structure Naming where
  source : Casing
  target : Casing
  deriving DecidableEq, Repr

namespace Naming

/-- The preference that applies where none is given. -/
def default : Naming := ⟨.pascal, .pascal⟩

/-- Whether both sides join into identifiers; otherwise names stay as they are. -/
def isSupported (n : Naming) : Bool :=
  n.source.isIdentifierSafe && n.target.isIdentifierSafe

/-- The spelling of a preference. -/
def render (n : Naming) : String := n.source.name ++ " -> " ++ n.target.name

end Naming

end EnumAccessors

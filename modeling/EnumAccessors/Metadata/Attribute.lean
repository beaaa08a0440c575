import EnumAccessors.Metadata.Location

/-!
# Attributes

An attribute is what somebody wrote on a type or a member: a list of arguments and, if the host
knows it, a place.  Nothing is validated here, so a missing, mistyped or surplus argument survives
until the analysis reports it.
-/

namespace EnumAccessors

/-- One argument of an attribute, as the host resolved it. -/
inductive Argument where
  | bool (value : Bool)
  | int (value : Int64)
  | text (value : String)
  | null
  deriving DecidableEq

namespace Argument

/-- The name of the argument's type in messages about a wrong type. -/
def typeName : Argument → String
  | bool _ => "bool"
  | int _ => "int"
  | text _ => "string"
  | null => "null"

/-- The text, if the argument is one. -/
def text? : Argument → Option String
  | text value => some value
  | _ => none

/-- The truth value, if the argument is one. -/
def bool? : Argument → Option Bool
  | bool value => some value
  | _ => none

/-- The bare spelling of an argument: a text stands for itself, without quotes. -/
def render : Argument → String
  | bool value => if value then "true" else "false"
  | int value => toString value.toInt
  | text value => value
  | null => "null"

end Argument

/-- An attribute written on a type or a member. -/
structure Attribute where
  args : List Argument := []
  location : Option Location := none
  deriving DecidableEq

namespace Attribute

/-- An attribute without arguments and without a place. -/
def bare : Attribute := {}

/-- The argument at `index`, if there is one. -/
def arg? (a : Attribute) (index : Nat) : Option Argument := a.args[index]?

end Attribute

end EnumAccessors

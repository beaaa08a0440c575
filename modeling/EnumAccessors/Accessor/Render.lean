import EnumAccessors.Accessor.Basic

/-!
# Rendering accessors

The lines of source text for a list of accessors, as extension methods
(`Accessor.methodLines`) and as properties of an extension block (`Accessor.propertyLines`).  Both
take names, summaries and expressions from the accessors, so they agree on them.

The properties may stand behind a guard: a preprocessor symbol without which they are left out.
-/

namespace EnumAccessors

/-- What the lines say about the type that is extended. -/
structure Target where
  access : String
  fullName : String
  receiver : String
  isFlags : Bool
  deriving DecidableEq

/-- The reference to a member of the type. -/
def Target.member (t : Target) (name : String) : String := t.fullName ++ "." ++ name

namespace Accessor

/-! ### Parts -/

/-- The sentence that documents an accessor. -/
def summary (a : Accessor) (isFlags : Bool) : String :=
  match a.subject, isFlags with
  | .flag, true => "Returns true if the '" ++ a.label ++ "' flag is set in the value."
  | .flag, false => "Returns true if the value is '" ++ a.label ++ "'."
  | .group, _ => "Returns true if the value is a member of the '" ++ a.label ++ "' group."

/-- The test of one bit. -/
def bitTest (t : Target) (name : String) : String :=
  t.receiver ++ ".HasFlag(" ++ t.member name ++ ")"

/-- The expression that an accessor stands for: bit tests where the values are independent bits,
else an equation for a flag and a pattern for a group. -/
def expression (t : Target) (a : Accessor) : String :=
  if t.isFlags then String.intercalate " || " (a.members.map (bitTest t))
  else
    match a.subject, a.members with
    | .flag, [single] => t.receiver ++ " == " ++ t.member single
    | _, members => t.receiver ++ " is " ++ String.intercalate " or " (members.map t.member)

/-! ### Methods -/

/-- The lines of one method. -/
def methodLinesOf (t : Target) (a : Accessor) : List String :=
  ["",
   "    /// <summary>",
   "    /// " ++ a.summary t.isFlags,
   "    /// </summary>",
   "    [Pure]",
   "    [MethodImpl(MethodImplOptions.AggressiveInlining)]",
   "    " ++ t.access ++ " static bool Get" ++ a.name ++ "(this " ++ t.fullName ++ " " ++
     t.receiver ++ ")",
   "        => " ++ a.expression t ++ ";"]

/-- The lines of the methods for a list of accessors. -/
def methodLines (t : Target) (accessors : List Accessor) : List String :=
  accessors.flatMap (methodLinesOf t)

/-! ### Properties -/

/-- The lines of one property. -/
def propertyLinesOf (t : Target) (a : Accessor) : List String :=
  ["",
   "        /// <summary>",
   "        /// " ++ a.summary t.isFlags,
   "        /// </summary>",
   "        " ++ t.access ++ " bool " ++ a.name,
   "            => " ++ a.expression t ++ ";"]

/-- The lines that open a guarded region. -/
def guardOpening : Option String → List String
  | none => []
  | some symbol => ["#if " ++ symbol, ""]

/-- The lines that close a guarded region. -/
def guardClosing : Option String → List String
  | none => []
  | some _ => ["", "#endif"]

/-- The lines of the extension block with the properties for a list of accessors. -/
def propertyLines (t : Target) (guard : Option String) (accessors : List Accessor) :
    List String :=
  "" :: guardOpening guard ++
    ["    extension(" ++ t.fullName ++ " " ++ t.receiver ++ ") \x7b"] ++
    accessors.flatMap (propertyLinesOf t) ++ ["    \x7d"] ++ guardClosing guard

end Accessor

end EnumAccessors

/-!
# Source locations

A place in the host's sources.  Nothing here interprets one: it is copied onto the diagnostics
raised for what stands there.
-/

namespace EnumAccessors

/-- A place in a source file, as the host counts lines and columns. -/
structure Location where
  file : String
  line : UInt64
  column : UInt64
  deriving DecidableEq

/-- The usual spelling of a place in front of a message. -/
def Location.render (l : Location) : String :=
  l.file ++ ":" ++ toString l.line.toNat ++ ":" ++ toString l.column.toNat

end EnumAccessors

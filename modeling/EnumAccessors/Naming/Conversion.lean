import EnumAccessors.Identifier
import EnumAccessors.Naming.Casing
import EnumAccessors.Naming.Words

/-!
# Converting names

A name is converted by splitting it into words and writing these in the target casing
(`Casing.apply`).  It stays as it is if it has no words, if the target is unknown, or if the
target promises an identifier and the words do not make one.

`Naming.convert` converts only between casings that both join into identifiers.
-/

namespace EnumAccessors

namespace Words

/-- A word with its first character in upper case and the rest, as a text of its own, in lower
case. -/
def capitalize : List Char → List Char
  | [] => []
  | c :: rest => Unicode.toUppercase c ++ Unicode.lowercase rest

end Words

namespace Casing

/-- How the casing writes the first word of a name. -/
def writeFirst (t : Casing) (word : List Char) : List Char :=
  match t with
  | camel | spacedCamel | snake | kebab => Unicode.lowercase word
  | pascal | train => Words.capitalize word
  | screamingSnake => Unicode.uppercase word
  | unknown => word

/-- How the casing writes the words after the first. -/
def writeNext (t : Casing) (word : List Char) : List Char :=
  match t with
  | camel | spacedCamel | pascal | train => Words.capitalize word
  | snake | kebab => Unicode.lowercase word
  | screamingSnake => Unicode.uppercase word
  | unknown => word

/-- The words of a name joined in the casing. -/
def join (t : Casing) : List (List Char) → List Char
  | [] => []
  | first :: rest =>
    t.writeFirst first ++ rest.flatMap fun word => t.separator ++ t.writeNext word

/-- The characters of a name in the casing. -/
def applyChars (t : Casing) (cs : List Char) : List Char :=
  let words := Words.split cs
  let joined := t.join words
  if t = unknown || words.isEmpty then cs
  else if t.isIdentifierSafe && !Identifier.isValidChars joined then cs
  else joined

/-- A name in the casing. -/
def apply (t : Casing) (name : String) : String := String.ofList (t.applyChars name.toList)

end Casing

namespace Naming

/-- A name converted as the preference asks; an unsupported preference changes nothing. -/
def convert (n : Naming) (name : String) : String :=
  if n.isSupported then n.target.apply name else name

end Naming

end EnumAccessors

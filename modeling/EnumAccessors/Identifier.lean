import EnumAccessors.Unicode.Category

/-!
# Identifiers

An identifier starts with a letter, a letter number or a low line and goes on with letters,
letter numbers, decimal digits, combining marks, connecting punctuation and format characters
(`Identifier.isValid`).  Only general categories count, and reserved words are identifiers.
-/

namespace EnumAccessors

namespace Identifier

/-- Whether an identifier may start with `c`. -/
def isStart (c : Char) : Bool :=
  Unicode.isLetter c || Unicode.isLetterNumber c || c == '_'

/-- Whether `c` may stand in an identifier after the first character. -/
def isPart (c : Char) : Bool :=
  Unicode.isLetter c || Unicode.isLetterNumber c || Unicode.isDecimalDigit c ||
    Unicode.isNonspacingMark c || Unicode.isSpacingMark c || Unicode.isConnector c ||
    Unicode.isFormat c

/-- Whether the characters make up an identifier. -/
def isValidChars : List Char → Bool
  | [] => false
  | c :: rest => isStart c && rest.all isPart

/-- Whether the text is an identifier. -/
def isValid (text : String) : Bool := isValidChars text.toList

end Identifier

end EnumAccessors

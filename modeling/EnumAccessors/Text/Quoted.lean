import EnumAccessors.Unicode.Printable

/-!
# Quoted text

How a message shows a text that somebody else wrote (`Text.quote`): between double quotes, with
an escape for each character that would end the quotation, cannot be seen, or attaches to the
character before it.  A single quote stands for itself.
-/

namespace EnumAccessors

namespace Text

/-- The digits of `n` in base sixteen, in lower case and without leading zeros. -/
def hexDigits (n : Nat) : List Char := Nat.toDigits 16 n

/-- The escape that names a character by its code point. -/
def codeEscape (c : Char) : List Char :=
  ['\\', 'u', '{'] ++ hexDigits c.toNat ++ ['}']

/-- One character of a quoted text. -/
def quoteChar (c : Char) : List Char :=
  if c = '\x00' then ['\\', '0']
  else if c = '\t' then ['\\', 't']
  else if c = '\r' then ['\\', 'r']
  else if c = '\n' then ['\\', 'n']
  else if c = '"' then ['\\', '"']
  else if c = '\\' then ['\\', '\\']
  else if Unicode.isExtendingMark c || !Unicode.isPrintable c then codeEscape c
  else [c]

/-- A text as messages quote it. -/
def quote (text : String) : String :=
  String.ofList ('"' :: text.toList.flatMap quoteChar ++ ['"'])

end Text

end EnumAccessors

/-!
# JSON values and their texts

A JSON value (`Json`) has two written forms: on one line without blanks (`Json.compact`) and over
several lines with two blanks per level (`Json.pretty`).  Both escape only what a JSON text cannot
hold: the quote, the backslash and the controls.

The fields of an object stand in the order they are given in.
-/

namespace EnumAccessors

/-- A JSON value with integers for numbers. -/
inductive Json where
  | null
  | bool (value : Bool)
  | int (value : Int)
  | text (value : String)
  | array (items : List Json)
  | object (fields : List (String × Json))

namespace Json

/-! ### Texts -/

/-- The escape of a control that has no letter of its own. -/
def controlEscape (c : Char) : List Char :=
  let digits := Nat.toDigits 16 c.toNat
  ['\\', 'u'] ++ List.replicate (4 - digits.length) '0' ++ digits

/-- One character of a written text. -/
def escapeChar (c : Char) : List Char :=
  if c = '"' then ['\\', '"']
  else if c = '\\' then ['\\', '\\']
  else if c = '\x08' then ['\\', 'b']
  else if c = '\x0c' then ['\\', 'f']
  else if c = '\n' then ['\\', 'n']
  else if c = '\r' then ['\\', 'r']
  else if c = '\t' then ['\\', 't']
  else if c.toNat < 0x20 then controlEscape c
  else [c]

/-- A written text. -/
def writeText (text : String) : List Char :=
  '"' :: text.toList.flatMap escapeChar ++ ['"']

/-- A written truth value. -/
def writeBool (b : Bool) : List Char :=
  if b then ['t', 'r', 'u', 'e'] else ['f', 'a', 'l', 's', 'e']

/-! ### On one line -/

mutual

/-- The characters of a value on one line. -/
def compactChars : Json → List Char
  | null => ['n', 'u', 'l', 'l']
  | bool b => writeBool b
  | int n => (toString n).toList
  | text s => writeText s
  | array items => '[' :: compactItems items ++ [']']
  | object fields => '\x7b' :: compactFields fields ++ ['\x7d']

/-- The items of an array on one line. -/
def compactItems : List Json → List Char
  | [] => []
  | [item] => compactChars item
  | item :: rest => compactChars item ++ ',' :: compactItems rest

/-- The fields of an object on one line. -/
def compactFields : List (String × Json) → List Char
  | [] => []
  | [(name, value)] => writeText name ++ ':' :: compactChars value
  | (name, value) :: rest =>
    writeText name ++ ':' :: compactChars value ++ ',' :: compactFields rest

end

/-- The text of a value on one line. -/
def compact (j : Json) : String := String.ofList j.compactChars

/-! ### Over several lines -/

/-- The start of a line at a level of nesting. -/
def newLine (level : Nat) : List Char := '\n' :: List.replicate (2 * level) ' '

mutual

/-- The characters of a value whose first line stands at a level of nesting. -/
def prettyChars (level : Nat) : Json → List Char
  | null => ['n', 'u', 'l', 'l']
  | bool b => writeBool b
  | int n => (toString n).toList
  | text s => writeText s
  | array [] => ['[', ']']
  | array (item :: rest) =>
    '[' :: newLine (level + 1) ++ prettyItems (level + 1) (item :: rest) ++ newLine level ++ [']']
  | object [] => ['\x7b', '\x7d']
  | object (field :: rest) =>
    '\x7b' :: newLine (level + 1) ++ prettyFields (level + 1) (field :: rest) ++
      newLine level ++ ['\x7d']

/-- The items of an array, each on lines of its own. -/
def prettyItems (level : Nat) : List Json → List Char
  | [] => []
  | [item] => prettyChars level item
  | item :: rest => prettyChars level item ++ ',' :: newLine level ++ prettyItems level rest

/-- The fields of an object, each on lines of its own. -/
def prettyFields (level : Nat) : List (String × Json) → List Char
  | [] => []
  | [(name, value)] => writeText name ++ ':' :: ' ' :: prettyChars level value
  | (name, value) :: rest =>
    writeText name ++ ':' :: ' ' :: prettyChars level value ++
      ',' :: newLine level ++ prettyFields level rest

end

/-- The text of a value over several lines. -/
def pretty (j : Json) : String := String.ofList (j.prettyChars 0)

end Json

end EnumAccessors

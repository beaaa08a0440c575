import EnumAccessors.Json.Token

/-!
# Outlines

An outline is the tree of a JSON text that keeps every fault at the place where it stands
(`Outline.ofText`).  Whoever walks it in order meets what is wrong with the text and what is wrong
with the values in it in the order of the text, so that the first problem decides.

Arrays and objects that are nested too deeply cannot be read, only skipped (`maxDepth`).
-/

namespace EnumAccessors

namespace Json

/-- How a list of items or fields comes to its end. -/
inductive Closing where
  /-- By its bracket. -/
  | closed
  /-- With the end of the text. -/
  | ended
  /-- At something that is neither a comma nor the bracket. -/
  | stray
  deriving DecidableEq, Repr

/-- The fault of an ending other than the bracket. -/
def Closing.fault? : Closing → Option Fault
  | closed => none
  | ended => some .ended
  | stray => some .malformed

/-- The tree of a text with the faults in place.  The key of a field is an outline too: the last
field may have one that is no text. -/
inductive Outline where
  | null
  | bool (value : Bool)
  | number (value : Number)
  | text (value : String)
  | array (items : List Outline) (closing : Closing)
  | object (fields : List (Outline × Outline)) (closing : Closing)
  /-- A value that starts with a character and cannot be read; perhaps it can be skipped. -/
  | broken (opening : Char) (reading : Fault) (skipping : Option Fault)
  /-- The text ends before the value. -/
  | ended

namespace Outline

/-! ### Faults -/

/-- The fault of an outline in the place of a key.  Skipping minds only whether it is a text. -/
def keyFault? (reading : Bool) : Outline → Option Fault
  | text _ => none
  | ended => some .ended
  | broken '"' fault skipping => if reading then some fault else skipping
  | _ => some .malformed

mutual

/-- The first fault in an outline, when it is read or when it is skipped. -/
def fault? (reading : Bool) : Outline → Option Fault
  | null | bool _ | number _ | text _ => none
  | array items closing => (faultOfItems? reading items).or closing.fault?
  | object fields closing => (faultOfFields? reading fields).or closing.fault?
  | broken _ fault skipping => if reading then some fault else skipping
  | ended => some .ended

/-- The first fault in a list of items. -/
def faultOfItems? (reading : Bool) : List Outline → Option Fault
  | [] => none
  | item :: rest => (fault? reading item).or (faultOfItems? reading rest)

/-- The first fault in a list of fields. -/
def faultOfFields? (reading : Bool) : List (Outline × Outline) → Option Fault
  | [] => none
  | (key, value) :: rest =>
    (keyFault? reading key).or ((fault? reading value).or (faultOfFields? reading rest))

end

/-! ### From tokens to outlines -/

/-- The most levels of arrays and objects that can be read. -/
def maxDepth : Nat := 127

/-- An array or object on a level that cannot be read. -/
def tooDeep (opening : Char) (o : Outline) : Outline :=
  broken opening .malformed (o.fault? false)

/-- A value whose place is taken by something else. -/
def misplaced (opening : Char) : Outline := broken opening .malformed (some .malformed)

/-- The outline of a token in the place of a key. -/
def ofKeyToken : Token → Outline
  | .text s => text s
  | .null => null
  | .bool b => bool b
  | .number n => number n
  | .broken opening reading skipping => broken opening reading skipping
  | .openArray => array [] .stray
  | .openObject => object [] .stray
  | .closeArray => misplaced ']'
  | .closeObject => misplaced '\x7d'
  | .comma => misplaced ','
  | .colon => misplaced ':'

/-- Whether what stands in the place of a key can be passed over to its value. -/
def isPassable : Token → Bool
  | .text _ => true
  | .broken '"' _ none => true
  | _ => false

mutual

/-- The outline that the tokens start with and the tokens after it, with `room` more levels that
can be read.  Each step takes a token or goes down a level, so twice as many steps as there are
tokens are enough. -/
def ofTokens : Nat → Nat → List Token → Outline × List Token
  | 0, _, tokens => (ended, tokens)
  | _ + 1, _, [] => (ended, [])
  | fuel + 1, room, token :: rest =>
    match token with
    | .openArray =>
      let (items, closing, after) :=
        match rest with
        | [] => ([], .ended, [])
        | .closeArray :: rest => ([], .closed, rest)
        | rest => itemsOfTokens fuel (room - 1) rest
      (if room = 0 then tooDeep '[' (array items closing) else array items closing, after)
    | .openObject =>
      let (fields, closing, after) :=
        match rest with
        | [] => ([], .ended, [])
        | .closeObject :: rest => ([], .closed, rest)
        | rest => fieldsOfTokens fuel (room - 1) rest
      (if room = 0 then tooDeep '\x7b' (object fields closing) else object fields closing, after)
    | .null => (null, rest)
    | .bool b => (bool b, rest)
    | .number n => (number n, rest)
    | .text s => (text s, rest)
    | .broken opening reading skipping => (broken opening reading skipping, rest)
    | .closeArray => (misplaced ']', rest)
    | .closeObject => (misplaced '\x7d', rest)
    | .comma => (misplaced ',', rest)
    | .colon => (misplaced ':', rest)

/-- The items of an array from one that has to be there. -/
def itemsOfTokens : Nat → Nat → List Token → List Outline × Closing × List Token
  | 0, _, tokens => ([], .ended, tokens)
  | fuel + 1, room, tokens =>
    let (item, after) := ofTokens fuel room tokens
    match after with
    | .comma :: after =>
      let (items, closing, after) := itemsOfTokens fuel room after
      (item :: items, closing, after)
    | .closeArray :: after => ([item], .closed, after)
    | [] => ([item], .ended, [])
    | after => ([item], .stray, after)

/-- The fields of an object from one that has to be there. -/
def fieldsOfTokens : Nat → Nat → List Token → List (Outline × Outline) × Closing × List Token
  | 0, _, tokens => ([], .ended, tokens)
  | _ + 1, _, [] => ([(ended, ended)], .ended, [])
  | fuel + 1, room, key :: rest =>
    if isPassable key then
      match rest with
      | .colon :: rest =>
        let (value, after) := ofTokens fuel room rest
        match after with
        | .comma :: after =>
          let (fields, closing, after) := fieldsOfTokens fuel room after
          ((ofKeyToken key, value) :: fields, closing, after)
        | .closeObject :: after => ([(ofKeyToken key, value)], .closed, after)
        | [] => ([(ofKeyToken key, value)], .ended, [])
        | after => ([(ofKeyToken key, value)], .stray, after)
      | [] => ([(ofKeyToken key, ended)], .ended, [])
      | after => ([(ofKeyToken key, misplaced ':')], .stray, after)
    else ([(ofKeyToken key, ended)], .stray, rest)

end

/-- The outline that a text starts with and the tokens after it. -/
def ofText (text : String) : Outline × List Token :=
  let tokens := Token.scan text.toList
  ofTokens (2 * tokens.length + 1) maxDepth tokens

end Outline

end Json

end EnumAccessors

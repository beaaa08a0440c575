import EnumAccessors.Json.Number

/-!
# The tokens of a JSON text

A text is a list of tokens (`Token.scan`).  A token that cannot be read stays in the list as a
broken one with the fault that a reader meets and the fault that is met when the value is skipped
unread: skipping looks at digits and escapes but not at what they stand for, so it passes over
numbers that are out of range and over escapes that name half a character.  The list ends at the
first token that cannot be skipped.
-/

namespace EnumAccessors

namespace Json

/-- One token of a text.  A broken one keeps its first character. -/
inductive Token where
  | openArray
  | closeArray
  | openObject
  | closeObject
  | comma
  | colon
  | null
  | bool (value : Bool)
  | number (value : Number)
  | text (value : String)
  | broken (opening : Char) (reading : Fault) (skipping : Option Fault)
  deriving DecidableEq

/-! ### Texts between quotes -/

/-- A part of a text: a character, written as it is or by its letter, or a code of sixteen bits. -/
inductive Piece where
  | char (c : Char)
  | code (n : Nat)
  deriving DecidableEq

/-- The value of a hexadecimal digit. -/
def hexValue (c : Char) : Option Nat :=
  if isDigit c then some (c.toNat - '0'.toNat)
  else if 'a' ≤ c && c ≤ 'f' then some (c.toNat - 'a'.toNat + 10)
  else if 'A' ≤ c && c ≤ 'F' then some (c.toNat - 'A'.toNat + 10)
  else none

/-- The number that four hexadecimal digits make up. -/
def hexCode (a b c d : Char) : Option Nat :=
  match hexValue a, hexValue b, hexValue c, hexValue d with
  | some a, some b, some c, some d => some (((a * 16 + b) * 16 + c) * 16 + d)
  | _, _, _, _ => none

/-- The character that a letter after a backslash stands for. -/
def letterEscape (c : Char) : Option Char :=
  if c = '"' then some '"'
  else if c = '\\' then some '\\'
  else if c = '/' then some '/'
  else if c = 'b' then some '\x08'
  else if c = 'f' then some '\x0c'
  else if c = 'n' then some '\n'
  else if c = 'r' then some '\r'
  else if c = 't' then some '\t'
  else none

/-- The fault of a code with fewer than four characters before the end of the text: the text ends
too early unless they take four bytes. -/
def shortCode (rest : List Char) : Fault :=
  if rest.foldl (fun bytes c => bytes + c.utf8Size) 0 < 4 then .ended else .malformed

/-- The pieces of a text after its opening quote, up to the closing quote or the first fault, and
what follows the closing quote. -/
def scanPieces : List Char → List Piece × Except Fault (List Char)
  | [] => ([], .error .ended)
  | c :: rest =>
    if c = '"' then ([], .ok rest)
    else if c = '\\' then
      match rest with
      | [] => ([], .error .ended)
      | e :: rest =>
        if e = 'u' then
          match rest with
          | h₁ :: h₂ :: h₃ :: h₄ :: rest =>
            match hexCode h₁ h₂ h₃ h₄ with
            | some n => let (pieces, outcome) := scanPieces rest; (.code n :: pieces, outcome)
            | none => ([], .error .malformed)
          | _ => ([], .error (shortCode rest))
        else
          match letterEscape e with
          | some d => let (pieces, outcome) := scanPieces rest; (.char d :: pieces, outcome)
          | none => ([], .error .malformed)
    else if c.toNat < 0x20 then ([], .error .malformed)
    else let (pieces, outcome) := scanPieces rest; (.char c :: pieces, outcome)

/-- Whether a code is the first half of a pair. -/
def isHighHalf (n : Nat) : Bool := 0xD800 ≤ n && n < 0xDC00

/-- Whether a code is the second half of a pair. -/
def isLowHalf (n : Nat) : Bool := 0xDC00 ≤ n && n < 0xE000

/-- The code point of a pair of halves. -/
def pairCode (high low : Nat) : Nat := 0x10000 + (high - 0xD800) * 0x400 + (low - 0xDC00)

/-- The characters that the pieces stand for; none if a half of a pair stands alone. -/
def Piece.chars? : List Piece → Option (List Char)
  | [] => some []
  | .char c :: rest => (chars? rest).map (c :: ·)
  | .code n :: rest =>
    if isHighHalf n then
      match rest with
      | .code m :: rest =>
        if isLowHalf m then (chars? rest).map (Char.ofNat (pairCode n m) :: ·) else none
      | _ => none
    else if isLowHalf n then none
    else (chars? rest).map (Char.ofNat n :: ·)

/-- Whether pieces can be the start of a text: the last one may be half a pair. -/
def Piece.isStart (pieces : List Piece) : Bool :=
  (chars? pieces).isSome || (chars? (pieces ++ [.code 0xDC00])).isSome

/-- The token of a text with the given pieces and outcome, and what follows it if it can be
skipped. -/
def textToken (pieces : List Piece) (outcome : Except Fault (List Char)) :
    Token × Option (List Char) :=
  match outcome, Piece.chars? pieces with
  | .ok rest, some cs => (.text (String.ofList cs), some rest)
  | .ok rest, none => (.broken '"' .malformed none, some rest)
  | .error fault, _ =>
    (.broken '"' (if Piece.isStart pieces then fault else .malformed) (some fault), none)

/-! ### Other tokens -/

/-- What follows a word that the text has to go on with. -/
def scanWord : List Char → List Char → Except Fault (List Char)
  | [], rest => .ok rest
  | _ :: _, [] => .error .ended
  | w :: word, c :: rest => if c = w then scanWord word rest else .error .malformed

/-- The token of a word. -/
def wordToken (token : Token) (opening : Char) (word rest : List Char) :
    Token × Option (List Char) :=
  match scanWord word rest with
  | .ok rest => (token, some rest)
  | .error fault => (.broken opening fault (some fault), none)

/-- The token of a number.  A number that ends too early is malformed when it is skipped. -/
def numberToken (opening : Char) (cs : List Char) : Token × Option (List Char) :=
  match Lexeme.scan cs with
  | .error fault => (.broken opening fault (some .malformed), none)
  | .ok (lexeme, rest) =>
    match lexeme.value with
    | some n => (.number n, some rest)
    | none => (.broken opening .malformed none, some rest)

/-- Whether `c` is a blank between tokens. -/
def isBlank (c : Char) : Bool := c == ' ' || c == '\n' || c == '\t' || c == '\r'

/-- The token that starts with `c` and what follows it if it can be skipped. -/
def nextToken (c : Char) (rest : List Char) : Token × Option (List Char) :=
  if c = '[' then (.openArray, some rest)
  else if c = ']' then (.closeArray, some rest)
  else if c = '\x7b' then (.openObject, some rest)
  else if c = '\x7d' then (.closeObject, some rest)
  else if c = ',' then (.comma, some rest)
  else if c = ':' then (.colon, some rest)
  else if c = '"' then
    let (pieces, outcome) := scanPieces rest
    textToken pieces outcome
  else if c = 'n' then wordToken .null c ['u', 'l', 'l'] rest
  else if c = 't' then wordToken (.bool true) c ['r', 'u', 'e'] rest
  else if c = 'f' then wordToken (.bool false) c ['a', 'l', 's', 'e'] rest
  else if c = '-' || isDigit c then numberToken c (c :: rest)
  else (.broken c .malformed (some .malformed), none)

/-- The tokens of a text that has at most `fuel` characters. -/
def scanTokens : Nat → List Char → List Token
  | 0, _ => []
  | _ + 1, [] => []
  | fuel + 1, c :: rest =>
    if isBlank c then scanTokens fuel rest
    else
      match nextToken c rest with
      | (token, some rest) => token :: scanTokens fuel rest
      | (token, none) => [token]

/-- The tokens of a text. -/
def Token.scan (cs : List Char) : List Token := scanTokens cs.length cs

end Json

end EnumAccessors
